import Eligibility.Decimal.Basic
import Eligibility.Scaling

/-!
# Decimal arithmetic

Comparison is exact and never writes out the zeros between two numbers of different size.
Products and quotients keep a hundred significant digits; a half is rounded away from zero.
-/

set_option autoImplicit false

namespace Eligibility

/-- The nearest whole number to `numerator / denominator`, a half going up. -/
def roundHalfUp (numerator denominator : Nat) : Nat :=
  (2 * numerator + denominator) / (2 * denominator)

def leadingOfQuotient (numerator denominator : Nat) : Int :=
  let estimate : Int := (digitCount numerator : Int) - digitCount denominator
  if raise 10 denominator estimate ≤ raise 10 numerator (-estimate) then
    estimate
  else
    estimate - 1

/-- The quotient rounded half up to a number of significant digits, as a coefficient and an
exponent of ten.  A quotient with no more digits than that is kept exactly. -/
def roundSignificant (digits numerator denominator : Nat) : Nat × Int :=
  let unit := leadingOfQuotient numerator denominator - digits + 1
  (roundHalfUp (raise 10 numerator (-unit)) (raise 10 denominator unit), unit)

namespace Decimal

def precision : Nat := 100

/-- The order of two magnitudes, neither of them zero. -/
def magnitudeOrder (left right : Decimal) : Ordering :=
  match compare left.leading right.leading with
  | .eq =>
    let unit := min left.exponent right.exponent
    compare (raise 10 left.coefficient.natAbs (left.exponent - unit))
      (raise 10 right.coefficient.natAbs (right.exponent - unit))
  | unequal => unequal

def order (left right : Decimal) : Ordering :=
  match compare left.coefficient.sign right.coefficient.sign with
  | .eq =>
    if left.coefficient = 0 then
      .eq
    else if left.coefficient < 0 then
      magnitudeOrder right left
    else
      magnitudeOrder left right
  | unequal => unequal

def isPositive (value : Decimal) : Bool :=
  0 < value.coefficient

def product (left right : Decimal) : ExtendedDecimal :=
  let coefficient := left.coefficient * right.coefficient
  if coefficient = 0 then
    .finite .zero
  else
    let rounded := roundSignificant precision coefficient.natAbs 1
    .ofScaled (coefficient.sign * rounded.1) (left.exponent + right.exponent + rounded.2)

def quotient (dividend divisor : Decimal) : ExtendedDecimal :=
  if divisor.coefficient = 0 then
    if dividend.coefficient = 0 then .notANumber else .infinite (dividend.coefficient < 0)
  else if dividend.coefficient = 0 then
    .finite .zero
  else
    let rounded :=
      roundSignificant precision dividend.coefficient.natAbs divisor.coefficient.natAbs
    .ofScaled (dividend.coefficient.sign * divisor.coefficient.sign * rounded.1)
      (dividend.exponent - divisor.exponent + rounded.2)

/-- The order of a decimal and the result of an operation; no order with what is no number. -/
def orderTo? (left : Decimal) : ExtendedDecimal → Option Ordering
  | .finite right => some (left.order right)
  | .infinite negative => some (if negative then .gt else .lt)
  | .notANumber => none

end Decimal

end Eligibility
