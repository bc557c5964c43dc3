import Eligibility.Proofs.Calendar.Days
import Eligibility.Proofs.Double.Whole
import Eligibility.Proofs.Tenure.Judged

/-!
# The rule that counts days

The days of a tenure are the whole days of the elapsed time except for a few instants, and the rule
compares them with the exact products of its whole numbers of years.
-/

set_option autoImplicit false

namespace Eligibility

open Instant

namespace TenureRule

/-- The products with the days of a year may be rounded, but never across a number of days. -/
theorem admits_betweenDays_iff (initial final : ℤ) (reference admission : Instant) :
    admits ⟨.betweenDays ((Double.finite initial).scale Tenure.daysPerYear)
        ((Double.finite final).scale Tenure.daysPerYear), reference⟩ admission = true ↔
      initial * 365 < reference.completeDays admission ∧
        reference.completeDays admission < final * 365 := by
  have small := reference.abs_completeDays_small admission
  have smaller := (lt_add_one _).trans small
  have product (years : ℤ) : (years : ℚ) * (365 : ℕ) = (years * 365 : ℤ) := by push_cast; rfl
  rw [admits, Bool.and_eq_true, Double.scale, Double.scale, Double.isBelow_ofRat smaller,
    Double.isAbove_ofRat smaller, decide_eq_true_iff, decide_eq_true_iff, Tenure.daysPerYear,
    product, product, nearestDouble_lt_iff small, lt_nearestDouble_iff small]

/-- The complete days of a tenure are the whole days of the elapsed time unless the instants are
among those that are miscounted, and they do not depend on which instant is the reference time unless
one of the two is moved out of range.  No instants are miscounted that lie off the leap day of the
year 0, with the admission before the last instant.  A rule with whole numbers of years compares the
elapsed days with years of 365 days. -/
theorem day_count_is_elapsed_time_iff (reference admission : Instant) :
    ((reference.completeDays admission : ℤ) = reference.elapsedDays admission ↔
      ¬reference.MiscountsDays admission) ∧
    (reference.completeDays admission = admission.completeDays reference ↔
      ¬reference.MovesOutOfRange admission ∧ ¬admission.MovesOutOfRange reference) ∧
    (reference.day ≠ leapDayOfYearZero → admission.day ≠ leapDayOfYearZero →
      admission.milliseconds ≠ limit → ¬reference.MiscountsDays admission) ∧
    ∀ (initial final : ℤ) (candidate : Candidate),
      candidate.readDate EmployeeField.admissionDate.key = .ok admission →
      ¬reference.MiscountsDays admission →
      ∃ verdict, rangeVerdict (.number (.finite initial)) (.number (.finite final)) (.ok reference)
          candidate = .ok verdict ∧
        (verdict = true ↔
          initial * 365 < reference.elapsedDays admission ∧
            reference.elapsedDays admission < final * 365) := by
  refine ⟨completeDays_eq_elapsedDays_iff, completeDays_comm_iff, ?_, ?_⟩
  · intro offLeapDay offLeapDay' notLast
    simp [MiscountsDays, LosesDay, GainsDay, MovesOutOfRange,
      offLeapDay, offLeapDay', notLast]
  · intro initial final candidate read exact
    refine ⟨_, (rangeVerdict_eq_ok_iff _ _).mpr ⟨_, _, rfl, rfl, admission, read, rfl⟩, ?_⟩
    rw [← completeDays_eq_elapsedDays_iff.mpr exact]
    exact admits_betweenDays_iff initial final reference admission

def leapDayStart : Instant :=
  ⟨-62162121600000, by decide⟩

def january2019 : Instant :=
  ⟨1546300800000, by decide⟩

def january2024 : Instant :=
  ⟨1704067200000, by decide⟩

/-- A day passes from the leap day of the year 0 to the next one, and none is counted.  The five
years from 2019 on have 1826 days, which are within four and six years of 365 days. -/
theorem leap_day_of_year_zero_uncounted :
    completeDays ⟨leapDayStart.milliseconds + dayLength, by decide⟩ leapDayStart = 0 ∧
      elapsedDays ⟨leapDayStart.milliseconds + dayLength, by decide⟩ leapDayStart = 1 ∧
      MiscountsDays ⟨leapDayStart.milliseconds + dayLength, by decide⟩ leapDayStart ∧
      rangeVerdict (.number (.finite (4 : ℤ))) (.number (.finite (6 : ℤ))) (.ok january2024)
        ⟨[("data_de_admissao", .date (some january2019))]⟩ = .ok true := by
  obtain ⟨exact_iff, -, -, -⟩ := day_count_is_elapsed_time_iff
    ⟨leapDayStart.milliseconds + dayLength, by decide⟩ leapDayStart
  obtain ⟨-, -, exact, compared⟩ := day_count_is_elapsed_time_iff january2024 january2019
  obtain ⟨verdict, judged, admitted_iff⟩ := compared 4 6
    ⟨[("data_de_admissao", .date (some january2019))]⟩ rfl
    (exact (by decide) (by decide) (by decide))
  have counted : completeDays ⟨leapDayStart.milliseconds + dayLength, by decide⟩ leapDayStart = 0 := by
    decide
  have elapsed : elapsedDays ⟨leapDayStart.milliseconds + dayLength, by decide⟩ leapDayStart = 1 := by
    decide
  refine ⟨counted, elapsed, ?_, ?_⟩
  · by_contra still
    have same := exact_iff.mpr still
    rw [counted, elapsed] at same
    exact absurd same (by decide)
  · rw [judged, admitted_iff.mpr (by decide)]

end TenureRule

end Eligibility
