import Eligibility.Proofs.Calendar.Moment
import Mathlib.Order.Bounds.Defs

/-!
# Complete years and anniversaries

The complete years between two instants are the anniversaries of the earlier one that the later one
has reached.  The anniversary of a leap day in a year without one is reached when March begins.
-/

set_option autoImplicit false

namespace Eligibility

namespace Instant

/-- The anniversary of an instant after a number of years, as year, month, day and time of day.
Its day is not always one of its year. -/
def anniversary (instant : Instant) (count : ℕ) : ℤ ×ₗ ℕ ×ₗ ℕ ×ₗ ℕ :=
  toLex (instant.date.year + count, instant.withinYear)

theorem completeYears_comm (left right : Instant) :
    left.completeYears right = right.completeYears left := by
  have years : (right.date.year - left.date.year).natAbs =
      (left.date.year - right.date.year).natAbs := by omega
  have moved : compare (right.inYear anniversaryYear) (left.inYear anniversaryYear) =
      (compare (left.inYear anniversaryYear) (right.inYear anniversaryYear)).swap :=
    Std.OrientedOrd.eq_swap
  rw [completeYears, completeYears, years, moved, ← order_swap left right]
  cases left.order right <;>
    cases compare (left.inYear anniversaryYear) (right.inYear anniversaryYear) <;> rfl

theorem completeYears_self (instant : Instant) : instant.completeYears instant = 0 := by
  have same : instant.order instant = .eq := compare_eq_iff_eq.mpr rfl
  simp [completeYears, same]

section Ordered
variable {earlier later : Instant}

theorem years_of_lt (before : earlier.milliseconds < later.milliseconds) :
    earlier.date.year < later.date.year ∨
      earlier.date.year = later.date.year ∧ earlier.withinYear < later.withinYear :=
  Prod.Lex.toLex_lt_toLex.mp (fields_lt_iff.mpr before)

theorem completeYears_of_lt (before : earlier.milliseconds < later.milliseconds) :
    later.completeYears earlier = (later.date.year - earlier.date.year).natAbs -
      if later.withinYear < earlier.withinYear then 1 else 0 := by
  have order : later.order earlier = .gt := compare_gt_iff_gt.mpr before
  rw [completeYears, order]
  simp only [Ordering.swap_gt, compare_lt_iff_lt, inYear_lt_iff]
  by_cases ahead : later.withinYear < earlier.withinYear <;> simp [ahead]

/-- A number of years is complete when its anniversary is reached. -/
theorem le_completeYears_iff (ordered : earlier.milliseconds ≤ later.milliseconds) (count : ℕ) :
    count ≤ later.completeYears earlier ↔ earlier.anniversary count ≤ later.fields := by
  have reached : earlier.anniversary count ≤ later.fields ↔
      earlier.date.year + count < later.date.year ∨
        earlier.date.year + count = later.date.year ∧
          ¬later.withinYear < earlier.withinYear := by
    rw [not_lt]
    exact Prod.Lex.toLex_le_toLex
  rw [reached]
  rcases ordered.lt_or_eq with before | same
  · rw [completeYears_of_lt before]
    by_cases ahead : later.withinYear < earlier.withinYear
    · have years : earlier.date.year < later.date.year :=
        (years_of_lt before).resolve_right fun same => same.2.not_gt ahead
      simp only [ahead, if_true, not_true, and_false, or_false]
      omega
    · have years : earlier.date.year ≤ later.date.year :=
        (years_of_lt before).elim le_of_lt fun same => same.1.le
      simp only [ahead, if_false, not_false_eq_true, and_true]
      omega
  · rw [ext_milliseconds same, completeYears_self]
    simp only [lt_irrefl, not_false_eq_true, and_true]
    omega

theorem completeYears_isGreatest (ordered : earlier.milliseconds ≤ later.milliseconds) :
    IsGreatest {count : ℕ | earlier.anniversary count ≤ later.fields}
      (later.completeYears earlier) :=
  ⟨(le_completeYears_iff ordered _).mp le_rfl,
    fun _ reached => (le_completeYears_iff ordered _).mpr reached⟩

/-! ## Leap days -/

/-- In a year without a leap day nothing lies between the last of February and March. -/
theorem leapDay_le_fields_iff {year : ℤ} (common : Calendar.isLeapYear year = false) (time : ℕ) :
    CivilDate.fieldsAt ⟨year, 2, 29⟩ time ≤ later.fields ↔
      CivilDate.momentAt ⟨year, 3, 1⟩ 0 ≤ later.milliseconds := by
  obtain ⟨-, -, dayPositive, daySmall⟩ := later.exists_date
  have february : later.date.year = year → later.date.month = 2 → later.date.day ≤ 28 := by
    intro inYear inFebruary
    rwa [Calendar.monthLength, inYear, common, inFebruary] at daySmall
  have march : CivilDate.momentAt ⟨year, 3, 1⟩ 0 ≤ later.milliseconds ↔
      CivilDate.fieldsAt ⟨year, 3, 1⟩ 0 ≤ later.fields := by
    rw [← not_lt, ← not_lt, fields, milliseconds_eq, ← toDay_date]
    exact not_congr (CivilDate.momentAt_lt_iff later.exists_date
      (CivilDate.exists_startOfMarch year) later.timeOfDay_lt (by decide))
  rw [march]
  simp only [CivilDate.fieldsAt, CivilDate.withinYearAt, fields, Prod.Lex.toLex_le_toLex]
  omega

end Ordered

/-- The complete years between two instants are the greatest number of years whose anniversary of
the earlier one the later one has reached, whichever of the two is given first, and none for one
and the same instant.  A year without a leap day is complete after a leap day from the start of
March on, whatever the time of day was. -/
theorem complete_years_are_anniversaries (earlier later : Instant)
    (ordered : earlier.milliseconds ≤ later.milliseconds) :
    IsGreatest {count : ℕ | earlier.anniversary count ≤ later.fields}
        (later.completeYears earlier) ∧
      earlier.completeYears later = later.completeYears earlier ∧
      (earlier.milliseconds = later.milliseconds → later.completeYears earlier = 0) ∧
      (earlier.date.month = 2 → earlier.date.day = 29 →
        ∀ count : ℕ, Calendar.isLeapYear (earlier.date.year + count) = false →
          (count ≤ later.completeYears earlier ↔
            CivilDate.momentAt ⟨earlier.date.year + count, 3, 1⟩ 0 ≤ later.milliseconds)) := by
  refine ⟨completeYears_isGreatest ordered, completeYears_comm earlier later, ?_, ?_⟩
  · intro same
    rw [ext_milliseconds same, completeYears_self]
  · intro february leapDay count common
    have day : earlier.anniversary count =
        CivilDate.fieldsAt ⟨earlier.date.year + count, 2, 29⟩ earlier.timeOfDay := by
      rw [anniversary, withinYear, CivilDate.fieldsAt, CivilDate.withinYearAt,
        CivilDate.withinYearAt, february, leapDay]
    rw [le_completeYears_iff ordered, day, leapDay_le_fields_iff common]

/-- Noon of 29 February 2000. -/
def leapDayNoon : Instant :=
  ⟨951825600000, by decide⟩

/-- The start of 1 March 2001. -/
def marchStart : Instant :=
  ⟨983404800000, by decide⟩

/-- The year after the leap day is complete when March begins, twelve hours before the time of day
comes round, and not a millisecond earlier. -/
theorem leap_day_year_ends_with_february :
    leapDayNoon.date = ⟨2000, 2, 29⟩ ∧ marchStart.date = ⟨2001, 3, 1⟩ ∧
      marchStart.timeOfDay < leapDayNoon.timeOfDay ∧
      IsGreatest {count : ℕ | leapDayNoon.anniversary count ≤ marchStart.fields} 1 ∧
      ¬1 ≤ completeYears ⟨marchStart.milliseconds - 1, by decide⟩ leapDayNoon := by
  have one : marchStart.completeYears leapDayNoon = 1 := by decide
  have greatest := (complete_years_are_anniversaries leapDayNoon marchStart (by decide)).1
  rw [one] at greatest
  have before := (complete_years_are_anniversaries leapDayNoon
    ⟨marchStart.milliseconds - 1, by decide⟩ (by decide)).2.2.2 (by decide) (by decide) 1 (by decide)
  refine ⟨by decide, by decide, by decide, greatest, ?_⟩
  rw [before]
  decide

end Instant

end Eligibility
