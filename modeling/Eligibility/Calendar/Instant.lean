import Eligibility.Calendar.Civil

/-!
# Instants

An instant is a whole number of milliseconds since the start of 1970, at most a hundred million
days away from it.  Days begin at midnight of universal time.
-/

set_option autoImplicit false

namespace Eligibility

def dayLength : Int := 86400000

def Instant.limit : Int := 8640000000000000

/-- A moment, to the millisecond. -/
structure Instant where
  milliseconds : Int
  inRange : -Instant.limit ≤ milliseconds ∧ milliseconds ≤ Instant.limit
  deriving DecidableEq

namespace Instant

def ofMilliseconds? (milliseconds : Int) : Option Instant :=
  if inRange : -limit ≤ milliseconds ∧ milliseconds ≤ limit then
    some ⟨milliseconds, inRange⟩
  else
    none

def day (instant : Instant) : Int :=
  instant.milliseconds / dayLength

def timeOfDay (instant : Instant) : Nat :=
  (instant.milliseconds % dayLength).toNat

def date (instant : Instant) : CivilDate :=
  .ofDay instant.day

def order (left right : Instant) : Ordering :=
  compare left.milliseconds right.milliseconds

end Instant

end Eligibility
