import Eligibility.Calendar.Elapsed
import Eligibility.Proofs.Calendar.Civil
import Mathlib.Order.Defs.LinearOrder
import Mathlib.Tactic.ByContra

/-!
# Instants as dates with a time of day

An instant is later than another exactly when its year, month, day and time of day are, compared in
this order.  The same holds once the years of both are replaced by a leap year, for month, day and
time of day alone.
-/

set_option autoImplicit false

namespace Eligibility

namespace CivilDate

/-- The milliseconds from 1 January 1970 to a time of day on the date. -/
def momentAt (date : CivilDate) (time : ℕ) : ℤ :=
  date.toDay * dayLength + time

def withinYearAt (date : CivilDate) (time : ℕ) : ℕ ×ₗ ℕ ×ₗ ℕ :=
  toLex (date.month, toLex (date.day, time))

def fieldsAt (date : CivilDate) (time : ℕ) : ℤ ×ₗ ℕ ×ₗ ℕ ×ₗ ℕ :=
  toLex (date.year, date.withinYearAt time)

section Order
variable {left right : CivilDate} {leftTime rightTime : ℕ}

theorem fieldsAt_lt_iff : left.fieldsAt leftTime < right.fieldsAt rightTime ↔
    left.fields < right.fields ∨ left.fields = right.fields ∧ leftTime < rightTime := by
  simp only [fieldsAt, withinYearAt, fields, Prod.Lex.toLex_lt_toLex, EmbeddingLike.apply_eq_iff_eq,
    Prod.mk.injEq]
  tauto

theorem fieldsAt_injective (same : left.fieldsAt leftTime = right.fieldsAt rightTime) :
    left = right ∧ leftTime = rightTime := by
  obtain ⟨year, month, day⟩ := left
  obtain ⟨year', month', day'⟩ := right
  cases same
  exact ⟨rfl, rfl⟩

theorem fieldsAt_le_iff : left.fieldsAt leftTime ≤ right.fieldsAt rightTime ↔
    left.fields < right.fields ∨ left = right ∧ leftTime ≤ rightTime := by
  rw [le_iff_lt_or_eq, fieldsAt_lt_iff]
  constructor
  · rintro ((dates | ⟨dates, times⟩) | same)
    · exact .inl dates
    · exact .inr ⟨fields_injective dates, times.le⟩
    · obtain ⟨dates, times⟩ := fieldsAt_injective same
      exact .inr ⟨dates, times.le⟩
  · rintro (dates | ⟨rfl, times⟩)
    · exact .inl (.inl dates)
    · exact times.lt_or_eq.imp (fun less => .inr ⟨rfl, less⟩) fun same => by rw [same]

/-- The later of two dates with times of day is the later moment.  Only the earlier date needs to
exist. -/
theorem momentAt_lt_momentAt (existing : left.Exists) (month : 1 ≤ right.month)
    (day : 1 ≤ right.day) (inDay : (leftTime : ℤ) < dayLength)
    (earlier : left.fieldsAt leftTime < right.fieldsAt rightTime) :
    left.momentAt leftTime < right.momentAt rightTime := by
  rw [momentAt, momentAt]
  rw [dayLength] at inDay ⊢
  rcases fieldsAt_lt_iff.mp earlier with dates | ⟨dates, times⟩
  · have days := toDay_lt_toDay existing month day dates
    omega
  · rw [fields_injective dates]
    omega

theorem momentAt_lt_iff (leftExists : left.Exists) (rightExists : right.Exists)
    (leftInDay : (leftTime : ℤ) < dayLength) (rightInDay : (rightTime : ℤ) < dayLength) :
    left.momentAt leftTime < right.momentAt rightTime ↔
      left.fieldsAt leftTime < right.fieldsAt rightTime := by
  constructor
  · intro moments
    by_contra! fields
    rcases fields.lt_or_eq with later | same
    · exact moments.not_gt (momentAt_lt_momentAt rightExists leftExists.1 leftExists.2.2.1
        rightInDay later)
    · obtain ⟨rfl, rfl⟩ := fieldsAt_injective same
      exact lt_irrefl _ moments
  · exact momentAt_lt_momentAt leftExists rightExists.1 rightExists.2.2.1 leftInDay

end Order

end CivilDate

namespace Instant

/-! ## The date and the time of day of an instant -/

theorem exists_date (instant : Instant) : instant.date.Exists :=
  (CivilDate.ofDay_spec instant.day).1

theorem toDay_date (instant : Instant) : instant.date.toDay = instant.day :=
  (CivilDate.ofDay_spec instant.day).2

theorem timeOfDay_lt (instant : Instant) : (instant.timeOfDay : ℤ) < dayLength := by
  rw [timeOfDay, dayLength]
  omega

theorem milliseconds_eq (instant : Instant) :
    instant.milliseconds = instant.day * dayLength + instant.timeOfDay := by
  rw [day, timeOfDay, dayLength]
  omega

theorem ext_milliseconds {left right : Instant} (same : left.milliseconds = right.milliseconds) :
    left = right := by
  cases left
  cases right
  cases same
  rfl

/-! ## The order of instants -/

def withinYear (instant : Instant) : ℕ ×ₗ ℕ ×ₗ ℕ :=
  instant.date.withinYearAt instant.timeOfDay

def fields (instant : Instant) : ℤ ×ₗ ℕ ×ₗ ℕ ×ₗ ℕ :=
  instant.date.fieldsAt instant.timeOfDay

section Order
variable {left right : Instant}

theorem fields_lt_iff : left.fields < right.fields ↔ left.milliseconds < right.milliseconds := by
  rw [milliseconds_eq left, milliseconds_eq right, ← toDay_date, ← toDay_date]
  exact (CivilDate.momentAt_lt_iff left.exists_date right.exists_date left.timeOfDay_lt
    right.timeOfDay_lt).symm

theorem fields_le_iff : left.fields ≤ right.fields ↔ left.milliseconds ≤ right.milliseconds := by
  rw [← not_lt, fields_lt_iff, not_lt]

/-- The order by calendar fields is the order in time. -/
theorem calendarOrder_eq : left.calendarOrder right = left.order right := by
  change compare left.fields right.fields = compare left.milliseconds right.milliseconds
  rcases lt_trichotomy left.milliseconds right.milliseconds with less | same | greater
  · rw [compare_lt_iff_lt.mpr less, compare_lt_iff_lt.mpr (fields_lt_iff.mpr less)]
  · rw [ext_milliseconds same, compare_eq_iff_eq.mpr rfl, compare_eq_iff_eq.mpr rfl]
  · rw [compare_gt_iff_gt.mpr greater, compare_gt_iff_gt.mpr (fields_lt_iff.mpr greater)]

theorem order_swap (left right : Instant) : (left.order right).swap = right.order left :=
  Std.OrientedOrd.eq_swap.symm

end Order

/-! ## Within a year -/

theorem inYear_lt_iff {left right : Instant} :
    left.inYear anniversaryYear < right.inYear anniversaryYear ↔
      left.withinYear < right.withinYear := by
  have leap : Calendar.isLeapYear anniversaryYear = true := rfl
  refine (CivilDate.momentAt_lt_iff (CivilDate.exists_inLeapYear leap left.exists_date)
    (CivilDate.exists_inLeapYear leap right.exists_date) left.timeOfDay_lt right.timeOfDay_lt).trans ?_
  simp [CivilDate.fieldsAt, Prod.Lex.toLex_lt_toLex, CivilDate.withinYearAt, withinYear]

end Instant

end Eligibility
