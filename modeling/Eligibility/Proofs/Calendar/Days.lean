import Eligibility.Proofs.Calendar.Moment
import Mathlib.Algebra.Order.Group.Unbundled.Int
import Mathlib.Tactic.WLOG

/-!
# Complete days

What the count of complete days comes to for every two instants, by their days and times of day.
It is the elapsed time but for two causes: the leap day of the year 0 is counted as the day after it,
and an instant that is moved out of range takes nothing off.
-/

set_option autoImplicit false

namespace Eligibility

namespace Instant

/-! ## The two steps of the count -/

/-- What is taken off the difference of the days for an instant that was moved to `moved`. -/
def overshoot (moved : ℤ) (right : Instant) (beyond : Ordering) : ℕ :=
  if (-limit ≤ moved ∧ moved ≤ limit) ∧ compare moved right.milliseconds = beyond then 1 else 0

theorem corrected_eq (moved : ℤ) (right : Instant) {order : Ordering} (ordered : order ≠ .eq)
    (days : ℕ) :
    (match ofMilliseconds? moved with
      | some instant =>
        if order ≠ .eq ∧ instant.calendarOrder right = order.swap then days - 1 else days
      | none => days) = days - overshoot moved right order.swap := by
  rw [ofMilliseconds?, overshoot]
  by_cases inRange : -limit ≤ moved ∧ moved ≤ limit
  · rw [dif_pos inRange]
    dsimp only
    rw [calendarOrder_eq]
    by_cases beyond : compare moved right.milliseconds = order.swap
    · rw [if_pos ⟨ordered, beyond⟩, if_pos ⟨inRange, beyond⟩]
    · rw [if_neg fun both => beyond both.2, if_neg fun both => beyond both.2, Nat.sub_zero]
  · rw [dif_neg inRange, if_neg fun both => inRange both.1, Nat.sub_zero]

section Steps
variable {left right : Instant}

theorem completeDays_of_gt (after : right.milliseconds < left.milliseconds) :
    left.completeDays right = (left.calendarDay - right.calendarDay).natAbs -
      overshoot (left.milliseconds - (left.calendarDay - right.calendarDay).natAbs * dayLength)
        right .lt := by
  have order : left.order right = .gt := compare_gt_iff_gt.mpr after
  unfold completeDays
  rw [calendarOrder_eq, order]
  exact corrected_eq _ right (show Ordering.gt ≠ .eq by decide) _

theorem completeDays_of_lt (before : left.milliseconds < right.milliseconds) :
    left.completeDays right = (left.calendarDay - right.calendarDay).natAbs -
      overshoot (left.milliseconds + (left.calendarDay - right.calendarDay).natAbs * dayLength)
        right .gt := by
  have order : left.order right = .lt := compare_lt_iff_lt.mpr before
  unfold completeDays
  rw [calendarOrder_eq, order]
  exact corrected_eq _ right (show Ordering.lt ≠ .eq by decide) _

end Steps

/-! ## What is counted -/

theorem completeDays_le_natAbs (left right : Instant) :
    left.completeDays right ≤ (left.calendarDay - right.calendarDay).natAbs := by
  unfold completeDays
  dsimp only
  split
  · split <;> omega
  · exact le_rfl

theorem completeDays_sameDay {left right : Instant} (same : left.day = right.day) :
    left.completeDays right = 0 := by
  have none := completeDays_le_natAbs left right
  rw [calendarDay, calendarDay, same, Int.sub_self] at none
  exact Nat.le_zero.mp none

def firstDay : ℤ :=
  -limit / dayLength

theorem firstDay_eq : firstDay = -100000000 := by
  decide

theorem firstDay_le_day (instant : Instant) : firstDay ≤ instant.day :=
  Int.ediv_le_ediv (by decide) instant.inRange.1

theorem leapDayOfYearZero_eq : leapDayOfYearZero = -719469 := by
  decide

section Counts
variable {earlier later : Instant}

theorem milliseconds_lt_of_day_lt (before : earlier.day < later.day) :
    earlier.milliseconds < later.milliseconds := by
  have inDay := earlier.timeOfDay_lt
  rw [milliseconds_eq earlier, milliseconds_eq later]
  rw [dayLength] at inDay ⊢
  omega

/-- Moved back by the counted days, the later instant lies on the day of the earlier one, on the day
after it when the earlier day is the leap day, and on the day before it when the later one is. -/
theorem completeDays_later (before : earlier.day < later.day) :
    (later.completeDays earlier : ℤ) =
      if earlier.day = leapDayOfYearZero then later.day - earlier.day - 1
      else if later.day = leapDayOfYearZero then
        later.day - earlier.day + if earlier.day = firstDay then 1 else 0
      else later.day - earlier.day - if later.timeOfDay < earlier.timeOfDay then 1 else 0 := by
  have earlierTime := earlier.timeOfDay_lt
  have laterTime := later.timeOfDay_lt
  have first := earlier.firstDay_le_day
  have inRange := later.inRange.2
  rw [milliseconds_eq later] at inRange
  rw [completeDays_of_gt (milliseconds_lt_of_day_lt before), overshoot, milliseconds_eq earlier,
    milliseconds_eq later, calendarDay, calendarDay]
  simp only [compare_lt_iff_lt]
  rw [firstDay_eq, limit, dayLength] at *
  by_cases fromLeapDay : earlier.day = leapDayOfYearZero
  · have toOther : later.day ≠ leapDayOfYearZero := fromLeapDay ▸ before.ne'
    rw [if_pos fromLeapDay, if_neg toOther, if_pos fromLeapDay, if_neg (by omega)]
    omega
  · rw [if_neg fromLeapDay, if_neg fromLeapDay]
    by_cases toLeapDay : later.day = leapDayOfYearZero
    · rw [if_pos toLeapDay, if_pos toLeapDay]
      split_ifs <;> omega
    · rw [if_neg toLeapDay, if_neg toLeapDay]
      split_ifs <;> omega

/-- Moved forward by the counted days, the earlier instant lies on the day of the later one, on the
day before it when the earlier day is the leap day, and on the day after it when the later one
is. -/
theorem completeDays_earlier (before : earlier.day < later.day) :
    (earlier.completeDays later : ℤ) =
      if earlier.day = leapDayOfYearZero then later.day - earlier.day - 1
      else if later.day = leapDayOfYearZero ∨ later.milliseconds = limit then
        later.day - earlier.day
      else later.day - earlier.day - if later.timeOfDay < earlier.timeOfDay then 1 else 0 := by
  have leapDay := leapDayOfYearZero_eq
  have earlierTime := earlier.timeOfDay_lt
  have laterTime := later.timeOfDay_lt
  have first := earlier.inRange.1
  have inRange := later.inRange.2
  rw [milliseconds_eq earlier] at first
  rw [milliseconds_eq later] at inRange
  rw [completeDays_of_lt (milliseconds_lt_of_day_lt before), overshoot, milliseconds_eq earlier,
    milliseconds_eq later, calendarDay, calendarDay]
  simp only [compare_gt_iff_gt]
  rw [limit, dayLength] at *
  by_cases fromLeapDay : earlier.day = leapDayOfYearZero
  · have toOther : later.day ≠ leapDayOfYearZero := fromLeapDay ▸ before.ne'
    rw [if_pos fromLeapDay, if_neg toOther, if_pos fromLeapDay, if_neg (by omega)]
    omega
  · rw [if_neg fromLeapDay, if_neg fromLeapDay]
    by_cases toLeapDay : later.day = leapDayOfYearZero
    · rw [if_pos toLeapDay]
      split_ifs <;> omega
    · rw [if_neg toLeapDay]
      split_ifs <;> omega

end Counts

/-! ## The elapsed time -/

def elapsedDays (left right : Instant) : ℤ :=
  |left.milliseconds - right.milliseconds| / dayLength

theorem elapsedDays_comm (left right : Instant) : left.elapsedDays right = right.elapsedDays left := by
  rw [elapsedDays, elapsedDays, abs_sub_comm]

theorem elapsedDays_later {earlier later : Instant} (before : earlier.day < later.day) :
    later.elapsedDays earlier =
      later.day - earlier.day - if later.timeOfDay < earlier.timeOfDay then 1 else 0 := by
  have earlierTime := earlier.timeOfDay_lt
  have laterTime := later.timeOfDay_lt
  have positive := milliseconds_lt_of_day_lt before
  rw [elapsedDays, abs_of_pos (sub_pos.mpr positive), milliseconds_eq earlier,
    milliseconds_eq later]
  rw [dayLength] at *
  split_ifs <;> omega

theorem elapsedDays_sameDay {left right : Instant} (same : left.day = right.day) :
    left.elapsedDays right = 0 := by
  have leftTime := left.timeOfDay_lt
  have rightTime := right.timeOfDay_lt
  rw [elapsedDays, milliseconds_eq left, milliseconds_eq right, same, Int.abs_eq_natAbs]
  rw [dayLength] at *
  omega

/-! ## Miscounted days -/

/-- The leap day of the year 0 is counted as the day after it although the last day is complete, so
that one day is lost. -/
def LosesDay (earlier later : Instant) : Prop :=
  earlier.day = leapDayOfYearZero ∧ earlier.day < later.day ∧
    earlier.timeOfDay ≤ later.timeOfDay

/-- The leap day of the year 0 is counted as the day after it although the last day is not complete,
so that one day is gained. -/
def GainsDay (earlier later : Instant) : Prop :=
  later.day = leapDayOfYearZero ∧ earlier.day < later.day ∧ later.timeOfDay < earlier.timeOfDay

/-- The first of two instants, moved to the second one, is out of range, so that nothing is taken
off. -/
def MovesOutOfRange (left right : Instant) : Prop :=
  left.day = leapDayOfYearZero ∧ right.day = firstDay ∨
    left.day ≠ leapDayOfYearZero ∧ 0 < left.timeOfDay ∧ right.milliseconds = limit

/-- The two instants are among the few for which the complete days are not the elapsed ones. -/
def MiscountsDays (left right : Instant) : Prop :=
  LosesDay left right ∨ LosesDay right left ∨ GainsDay left right ∨ GainsDay right left ∨
    MovesOutOfRange left right

theorem midnight_of_limit (instant : Instant) (last : instant.milliseconds = limit) :
    instant.day ≠ leapDayOfYearZero ∧ instant.timeOfDay = 0 := by
  rw [day, timeOfDay, last]
  decide

section Miscounts
variable {left right : Instant}

theorem movesOutOfRange_before_iff (before : left.day < right.day) : MovesOutOfRange left right ↔
    left.day ≠ leapDayOfYearZero ∧ 0 < left.timeOfDay ∧ right.milliseconds = limit := by
  have notFirst : ¬right.day = firstDay := (left.firstDay_le_day.trans_lt before).ne'
  rw [MovesOutOfRange, or_iff_right fun first => notFirst first.2]

theorem movesOutOfRange_after_iff (after : right.day < left.day) : MovesOutOfRange left right ↔
    left.day = leapDayOfYearZero ∧ right.day = firstDay := by
  have notLast : ¬right.milliseconds = limit :=
    ((milliseconds_lt_of_day_lt after).trans_le left.inRange.2).ne
  rw [MovesOutOfRange, or_iff_left fun last => notLast last.2.2]

theorem not_movesOutOfRange_sameDay (same : left.day = right.day) :
    ¬MovesOutOfRange left right := by
  rintro (⟨leapDay, first⟩ | ⟨-, late, last⟩)
  · rw [same, first, firstDay_eq, leapDayOfYearZero_eq] at leapDay
    omega
  · -- the last instant is alone on its day
    have midnight := (midnight_of_limit right last).2
    have bound := left.inRange.2
    rw [← last, milliseconds_eq, milliseconds_eq right, same] at bound
    omega

theorem miscountsDays_before_iff (before : left.day < right.day) :
    MiscountsDays left right ↔
      left.day = leapDayOfYearZero ∧ left.timeOfDay ≤ right.timeOfDay ∨
        right.day = leapDayOfYearZero ∧ right.timeOfDay < left.timeOfDay ∨
        left.day ≠ leapDayOfYearZero ∧ 0 < left.timeOfDay ∧ right.milliseconds = limit := by
  simp only [MiscountsDays, LosesDay, GainsDay, movesOutOfRange_before_iff before, before,
    before.not_gt, true_and, false_and, and_false, false_or]

theorem miscountsDays_after_iff (after : right.day < left.day) :
    MiscountsDays left right ↔
      right.day = leapDayOfYearZero ∧ right.timeOfDay ≤ left.timeOfDay ∨
        left.day = leapDayOfYearZero ∧ left.timeOfDay < right.timeOfDay ∨
        left.day = leapDayOfYearZero ∧ right.day = firstDay := by
  simp only [MiscountsDays, LosesDay, GainsDay, movesOutOfRange_after_iff after, after,
    after.not_gt, true_and, false_and, and_false, false_or]

theorem not_miscountsDays_sameDay (same : left.day = right.day) : ¬MiscountsDays left right := by
  simp only [MiscountsDays, LosesDay, GainsDay, not_movesOutOfRange_sameDay same, same, lt_irrefl,
    false_and, and_false, or_false, not_false_eq_true]

/-- The complete days are the elapsed ones except for the listed instants. -/
theorem completeDays_eq_elapsedDays_iff :
    (left.completeDays right : ℤ) = left.elapsedDays right ↔ ¬MiscountsDays left right := by
  rcases lt_trichotomy left.day right.day with before | same | after
  · have midnight := midnight_of_limit right
    rw [elapsedDays_comm, elapsedDays_later before, completeDays_earlier before,
      miscountsDays_before_iff before]
    by_cases fromLeapDay : left.day = leapDayOfYearZero
    · have other : right.day ≠ leapDayOfYearZero := fromLeapDay ▸ before.ne'
      simp only [fromLeapDay, other, if_true, true_and, false_and, ne_eq, not_true, or_false]
      split_ifs <;> omega
    · simp only [fromLeapDay, if_false, false_and, false_or, ne_eq, not_false_eq_true, true_and]
      split_ifs <;> omega
  · rw [elapsedDays_sameDay same, completeDays_sameDay same]
    exact iff_of_true rfl (not_miscountsDays_sameDay same)
  · rw [elapsedDays_later after, completeDays_later after, miscountsDays_after_iff after]
    by_cases fromLeapDay : right.day = leapDayOfYearZero
    · have other : left.day ≠ leapDayOfYearZero := fromLeapDay ▸ after.ne'
      simp only [fromLeapDay, other, if_true, true_and, false_and, or_false]
      split_ifs <;> omega
    · simp only [fromLeapDay, if_false, false_and, false_or]
      split_ifs <;> omega

/-- The count depends on the order of its arguments only where one of them is moved out of range. -/
theorem completeDays_comm_iff : left.completeDays right = right.completeDays left ↔
    ¬MovesOutOfRange left right ∧ ¬MovesOutOfRange right left := by
  wlog before : left.day ≤ right.day generalizing left right
  · rw [eq_comm, this (not_le.mp before).le, and_comm]
  rcases before.lt_or_eq with before | same
  · have midnight := midnight_of_limit right
    rw [← Int.natCast_inj, completeDays_earlier before, completeDays_later before,
      movesOutOfRange_before_iff before, movesOutOfRange_after_iff before]
    by_cases fromLeapDay : left.day = leapDayOfYearZero
    · have other : right.day ≠ leapDayOfYearZero := fromLeapDay ▸ before.ne'
      simp only [fromLeapDay, other, if_true, false_and, ne_eq, not_true, not_false_eq_true,
        and_self]
    · simp only [fromLeapDay, if_false, ne_eq, not_false_eq_true, true_and]
      split_ifs <;> omega
  · rw [completeDays_sameDay same, completeDays_sameDay same.symm]
    exact iff_of_true rfl
      ⟨not_movesOutOfRange_sameDay same, not_movesOutOfRange_sameDay same.symm⟩

end Miscounts

theorem completeDays_le (left right : Instant) : left.completeDays right ≤ 200000001 := by
  have count := completeDays_le_natAbs left right
  have leftFirst := left.firstDay_le_day
  have rightFirst := right.firstDay_le_day
  have leftLast : left.day ≤ 100000000 := Int.ediv_le_ediv (by decide) left.inRange.2
  have rightLast : right.day ≤ 100000000 := Int.ediv_le_ediv (by decide) right.inRange.2
  rw [firstDay_eq] at leftFirst rightFirst
  rw [calendarDay, calendarDay] at count
  split_ifs at count <;> omega

theorem abs_completeDays_small (left right : Instant) :
    |(left.completeDays right : ℤ)| + 1 < 2 ^ 53 := by
  have small := left.completeDays_le right
  rw [Int.abs_eq_natAbs]
  omega

end Instant

end Eligibility
