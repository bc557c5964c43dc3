/-!
# Civil dates

The Gregorian calendar without beginning or end.  Days are counted from 1 January 1970, and the
year 0 comes before the year 1.
-/

set_option autoImplicit false

namespace Eligibility

/-- A year, a month from 1 to 12 and a day of the month from 1. -/
structure CivilDate where
  year : Int
  month : Nat
  day : Nat
  deriving DecidableEq

namespace Calendar

def isLeapYear (year : Int) : Bool :=
  year % 4 = 0 && (year % 100 ≠ 0 || year % 400 = 0)

def monthLengths (leap : Bool) : List Nat :=
  [31, if leap then 29 else 28, 31, 30, 31, 30, 31, 31, 30, 31, 30, 31]

def monthLength (year : Int) (month : Nat) : Nat :=
  (monthLengths (isLeapYear year)).getD (month - 1) 0

def yearLength (year : Int) : Nat :=
  if isLeapYear year then 366 else 365

def daysBeforeYear (year : Int) : Int :=
  365 * year + (year + 3) / 4 - (year + 99) / 100 + (year + 399) / 400

def daysBeforeMonth (leap : Bool) (month : Nat) : Nat :=
  ((monthLengths leap).take (month - 1)).foldr (· + ·) 0

/-- The days from the first day of the year 0 to 1 January 1970. -/
def epoch : Int := 719528

/-- The year that holds the day `day` after the first day of the year 0.  The estimate from the
mean length of a year is at most one year off. -/
def yearHolding (day : Int) : Int :=
  let estimate := 400 * day / 146097
  if day < daysBeforeYear estimate then
    estimate - 1
  else if daysBeforeYear (estimate + 1) ≤ day then
    estimate + 1
  else
    estimate

/-- The month, and the day in it, that lies a number of days after the first day of a period with
the given month lengths. -/
def monthHolding : List Nat → Nat → Nat × Nat
  | [], day => (1, day + 1)
  | length :: rest, day =>
    if day < length then
      (1, day + 1)
    else
      let later := monthHolding rest (day - length)
      (later.1 + 1, later.2)

end Calendar

namespace CivilDate

open Calendar

def Exists (date : CivilDate) : Prop :=
  1 ≤ date.month ∧ date.month ≤ 12 ∧ 1 ≤ date.day ∧ date.day ≤ monthLength date.year date.month

instance (date : CivilDate) : Decidable date.Exists :=
  inferInstanceAs (Decidable (_ ∧ _ ∧ _ ∧ _))

/-- The days from 1 January 1970 to the date. -/
def toDay (date : CivilDate) : Int :=
  daysBeforeYear date.year - epoch + daysBeforeMonth (isLeapYear date.year) date.month +
    (date.day : Int) - 1

def ofDay (day : Int) : CivilDate :=
  let year := yearHolding (day + epoch)
  let inYear := monthHolding (monthLengths (isLeapYear year))
    (day + epoch - daysBeforeYear year).toNat
  { year, month := inYear.1, day := inYear.2 }

end CivilDate

end Eligibility
