import Eligibility.Proofs.Calendar.YearsInDays
import Eligibility.Proofs.Tenure.DayCount

/-!
# Rules in years and in days

The rule that counts days takes 365 of them for a year, which no complete year falls short of.  A
tenure below an upper bound in days is therefore below it in complete years as well, however the
product of the bound is rounded.
-/

set_option autoImplicit false

namespace Eligibility

open Instant

namespace TenureRule

section Bounds
variable {reference admission : Instant}

theorem admits_below_iff (years : ℚ) :
    admits ⟨.below (.finite years), reference⟩ admission = true ↔
      reference.completeYears admission < years :=
  decide_eq_true_iff

theorem admits_atLeast_iff (years : ℚ) :
    admits ⟨.atLeast (.finite years), reference⟩ admission = true ↔
      years ≤ reference.completeYears admission :=
  decide_eq_true_iff

/-- Days below a bound, rounded or not, are of complete years below it. -/
theorem completeYears_lt_of_betweenDays {initial : Double} {final : ℚ}
    (admitted : admits ⟨.betweenDays initial ((Double.finite final).scale Tenure.daysPerYear),
      reference⟩ admission = true) :
    (reference.completeYears admission : ℚ) < final := by
  have small := (lt_add_one _).trans (reference.abs_completeDays_small admission)
  rw [admits, Bool.and_eq_true, Double.scale, Double.isAbove_ofRat small,
    decide_eq_true_iff] at admitted
  by_contra! le
  have years : (reference.completeYears admission * 365 : ℚ) ≤ reference.completeDays admission := by
    exact_mod_cast mul_comm 365 _ ▸ (reference.completeDays_bounds admission).1
  refine admitted.2.not_ge (nearestDouble_le small ?_)
  calc final * Tenure.daysPerYear
      ≤ reference.completeYears admission * 365 := by
        exact mul_le_mul_of_nonneg_right le (by norm_num)
    _ ≤ ((reference.completeDays admission : ℤ) : ℚ) := by rwa [Int.cast_natCast]

end Bounds

/-- The complete days are at least 365 for each complete year, and at most 366 for each and a year
that is one day short of complete unless a day is left over.  An employee within a range of days has
fewer complete years than its upper end. -/
theorem range_in_days_is_below_in_years (reference : Instant) :
    (∀ admission,
      365 * reference.completeYears admission ≤ reference.completeDays admission ∧
        (reference.completeDays admission ≤ 366 * reference.completeYears admission + 365 ↔
          ¬reference.HasDayLeftOver admission)) ∧
    ∀ (initial final : Value) (candidate : Candidate),
      rangeVerdict initial final (.ok reference) candidate = .ok true →
        thresholdVerdict .below final (.ok reference) candidate = .ok true ∧
          thresholdVerdict .atLeast final (.ok reference) candidate = .ok false := by
  refine ⟨reference.completeDays_bounds, ?_⟩
  intro initial final candidate satisfied
  obtain ⟨lower, upper, -, given, admission, read, admitted⟩ :=
    (rangeVerdict_eq_ok_iff initial final).mp satisfied
  have below := completeYears_lt_of_betweenDays admitted
  refine ⟨(thresholdVerdict_eq_ok_iff _ _).mpr ⟨upper, given, admission, read, ?_⟩,
    (thresholdVerdict_eq_ok_iff _ _).mpr ⟨upper, given, admission, read, ?_⟩⟩
  · exact (admits_below_iff upper).mpr below
  · rw [← Bool.not_eq_true, admits_atLeast_iff]
    exact below.not_ge

/-- Noon of 13 September 275759. -/
def yearBeforeLast : Instant :=
  ⟨8639968420800000, by decide⟩

def lastInstant : Instant :=
  ⟨8640000000000000, by decide⟩

/-- From noon to the last instant, 365 days and twelve hours later, no year is complete and 366 days
are counted.  The five years from 2019 on are within four and six years of 365 days, and
below six years. -/
theorem day_left_over_before_last_instant :
    yearBeforeLast.completeYears lastInstant = 0 ∧
      yearBeforeLast.completeDays lastInstant = 366 ∧
      yearBeforeLast.HasDayLeftOver lastInstant ∧
      rangeVerdict (.number (.finite (4 : ℤ))) (.number (.finite (6 : ℤ))) (.ok january2024)
        ⟨[("data_de_admissao", .date (some january2019))]⟩ = .ok true ∧
      thresholdVerdict .below (.number (.finite (6 : ℤ))) (.ok january2024)
        ⟨[("data_de_admissao", .date (some january2019))]⟩ = .ok true ∧
      thresholdVerdict .atLeast (.number (.finite (6 : ℤ))) (.ok january2024)
        ⟨[("data_de_admissao", .date (some january2019))]⟩ = .ok false := by
  obtain ⟨bounds, -⟩ := range_in_days_is_below_in_years yearBeforeLast
  obtain ⟨-, implied⟩ := range_in_days_is_below_in_years january2024
  have years : yearBeforeLast.completeYears lastInstant = 0 := by decide
  have days : yearBeforeLast.completeDays lastInstant = 366 := by decide
  have satisfied : rangeVerdict (.number (.finite (4 : ℤ))) (.number (.finite (6 : ℤ)))
      (.ok january2024) ⟨[("data_de_admissao", .date (some january2019))]⟩ = .ok true :=
    (rangeVerdict_eq_ok_iff _ _).mpr ⟨_, _, rfl, rfl, january2019, rfl,
      (admits_betweenDays_iff 4 6 january2024 january2019).mpr (by decide)⟩
  refine ⟨years, days, ?_, satisfied, implied _ _ _ satisfied⟩
  by_contra none
  have short := (bounds lastInstant).2.mpr none
  rw [years, days] at short
  exact absurd short (by decide)

end TenureRule

end Eligibility
