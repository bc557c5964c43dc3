import Eligibility.Calendar.Instant

/-!
# Elapsed years and days

Both counts are differences in the calendar that leave out a last year or day that is not complete.
-/

set_option autoImplicit false

namespace Eligibility

namespace Instant

/-! ## Years -/

/-- The year in which anniversaries are compared; it has a leap day. -/
def anniversaryYear : Int := 1584

def inYear (year : Int) (instant : Instant) : Int :=
  CivilDate.toDay { instant.date with year } * dayLength + instant.timeOfDay

/-- The complete years between two instants: the difference of the years, and one less when the
anniversary in the last year is still to come. -/
def completeYears (left right : Instant) : Nat :=
  let years := (left.date.year - right.date.year).natAbs
  let order := left.order right
  let anniversaryOrder := compare (left.inYear anniversaryYear) (right.inYear anniversaryYear)
  if order ≠ .eq ∧ anniversaryOrder = order.swap then years - 1 else years

/-! ## Days -/

def calendarOrder (left right : Instant) : Ordering :=
  (compare left.date.year right.date.year).then
    ((compare left.date.month right.date.month).then
      ((compare left.date.day right.date.day).then
        (compare left.timeOfDay right.timeOfDay)))

def leapDayOfYearZero : Int :=
  CivilDate.toDay ⟨0, 2, 29⟩

/-- The number of the day in differences of calendar days.  The leap day of the year 0 is counted
as the day after it. -/
def calendarDay (instant : Instant) : Int :=
  if instant.day = leapDayOfYearZero then instant.day + 1 else instant.day

/-- The complete days between two instants: the difference of the calendar days, and one less when
`left`, moved by that many days towards `right`, comes to lie beyond it.  A moved instant out of
range takes nothing off. -/
def completeDays (left right : Instant) : Nat :=
  let days := (left.calendarDay - right.calendarDay).natAbs
  let order := left.calendarOrder right
  let moved :=
    if order = .gt then
      left.milliseconds - days * dayLength
    else
      left.milliseconds + days * dayLength
  match ofMilliseconds? moved with
  | some instant =>
    if order ≠ .eq ∧ instant.calendarOrder right = order.swap then days - 1 else days
  | none => days

end Instant

end Eligibility
