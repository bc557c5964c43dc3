import Eligibility.Scaling

/-!
# Doubles

A double is the exact rational it stands for, an infinity, or no number.  Every operation
computes the exact result first and rounds it once with `nearestDouble`, to the nearest point of
the grid with 53 significant bits, a half going to the even neighbour.  The sign of zero is not
kept, because no text and no comparison shows it.
-/

set_option autoImplicit false

namespace Eligibility

inductive Double where
  | finite (value : Rat)
  | infinite (negative : Bool)
  | notANumber
  deriving DecidableEq

/-- The nearest whole number to `numerator / denominator`, a half going to the even one. -/
def roundHalfEven (numerator denominator : Nat) : Nat :=
  let whole := numerator / denominator
  let rest := 2 * (numerator % denominator)
  if rest < denominator then
    whole
  else if denominator < rest then
    whole + 1
  else
    whole + whole % 2

/-- The greatest power of two that is not above `numerator / denominator`, as an exponent. -/
def binaryExponent (numerator denominator : Nat) : Int :=
  let estimate : Int := (numerator.log2 : Int) - denominator.log2
  if raise 2 denominator estimate ≤ raise 2 numerator (-estimate) then
    estimate
  else
    estimate - 1

/-- The exponent of the last of the 53 bits of a magnitude; no bit is finer than `2 ^ (-1074)`. -/
def unitExponent (numerator denominator : Nat) : Int :=
  max (binaryExponent numerator denominator - 52) (-1074)

def scaledByTwo (bits : Nat) (unit : Int) : Rat :=
  bits * 2 ^ unit

def nearestMagnitude (numerator denominator : Nat) : Rat :=
  let unit := unitExponent numerator denominator
  scaledByTwo (roundHalfEven (raise 2 numerator (-unit)) (raise 2 denominator unit)) unit

/-- The point of the grid of doubles nearest to a number, without an upper bound. -/
def nearestDouble (number : Rat) : Rat :=
  if number.num = 0 then
    0
  else if number.num < 0 then
    -nearestMagnitude number.num.natAbs number.den
  else
    nearestMagnitude number.num.natAbs number.den

namespace Double

/-- The magnitude from which a rounded number is an infinity. -/
def overflow : Rat :=
  scaledByTwo 1 1024

def ofRat (number : Rat) : Double :=
  let rounded := nearestDouble number
  if overflow ≤ rounded then
    .infinite false
  else if rounded ≤ -overflow then
    .infinite true
  else
    .finite rounded

def isFinite : Double → Bool
  | .finite _ => true
  | .infinite _ | .notANumber => false

def scale (factor : Nat) : Double → Double
  | .finite value => ofRat (value * factor)
  | other => other

def isBelow (number : Int) : Double → Bool
  | .finite value => value < number
  | .infinite negative => negative
  | .notANumber => false

def isAbove (number : Int) : Double → Bool
  | .finite value => number < value
  | .infinite negative => !negative
  | .notANumber => false

def isAtMost (number : Int) : Double → Bool
  | .finite value => value ≤ number
  | .infinite negative => negative
  | .notANumber => false

end Double

end Eligibility
