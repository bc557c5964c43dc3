import Eligibility.Calendar.Instant

/-!
# The text of an instant

The timestamp names the instant to the second, and its reader gives back the whole second.  The
long text is for messages.
-/

set_option autoImplicit false

namespace Eligibility

def padded (width number : Nat) : List Char :=
  let digits := Nat.toDigits 10 number
  List.replicate (width - digits.length) '0' ++ digits

/-- A year with at least four digits, after a sign when it lies before the year 0. -/
def yearText (year : Int) : List Char :=
  if year < 0 then '-' :: padded 4 year.natAbs else padded 4 year.natAbs

namespace Instant

def clockText (instant : Instant) : List Char :=
  padded 2 (instant.timeOfDay / 3600000) ++ ':' ::
    padded 2 (instant.timeOfDay / 60000 % 60) ++ ':' ::
      padded 2 (instant.timeOfDay / 1000 % 60)

/-- The date and the clock of universal time, as in `2024-01-31T08:15:00Z`. -/
def timestamp (instant : Instant) : List Char :=
  yearText instant.date.year ++ '-' :: padded 2 instant.date.month ++ '-' ::
    padded 2 instant.date.day ++ 'T' :: instant.clockText ++ ['Z']

def weekdayNames : List String :=
  ["Sun", "Mon", "Tue", "Wed", "Thu", "Fri", "Sat"]

def monthNames : List String :=
  ["Jan", "Feb", "Mar", "Apr", "May", "Jun", "Jul", "Aug", "Sep", "Oct", "Nov", "Dec"]

/-- The days since the last Sunday; 1 January 1970 was a Thursday. -/
def weekday (instant : Instant) : Nat :=
  ((instant.day + 4) % 7).toNat

/-- The text for messages, as in
`Tue Jan 01 2019 00:00:00 GMT+0000 (Coordinated Universal Time)`. -/
def longText (instant : Instant) : String :=
  weekdayNames.getD instant.weekday "" ++ " " ++
    monthNames.getD (instant.date.month - 1) "" ++ " " ++
    String.ofList (padded 2 instant.date.day ++ ' ' :: yearText instant.date.year ++
      ' ' :: instant.clockText) ++
    " GMT+0000 (Coordinated Universal Time)"

end Instant

end Eligibility
