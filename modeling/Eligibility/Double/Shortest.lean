import Eligibility.Decimal.Arithmetic
import Eligibility.Decimal.Text
import Eligibility.Double.Basic

/-!
# The shortest decimal of a double

Of the decimals that round to a double, the one with the fewest digits stands for it in texts
and in decimal arithmetic.  Two of equal length are told apart by their distance, and at equal
distance the even one is taken.
-/

set_option autoImplicit false

namespace Eligibility

def leastFullBits : Int := 4503599627370496

/-- The numbers between `lower` and `upper`, with both ends or with neither. -/
structure RoundingInterval where
  lower : Rat
  upper : Rat
  closed : Bool

namespace RoundingInterval

/-- The numbers that round to a positive double.  Its neighbours are one unit away, but half a unit
below a power of two; the ends belong to the double whose last bit is zero. -/
def around (value : Rat) : RoundingInterval :=
  let unit := unitExponent value.num.natAbs value.den
  let gap := scaledByTwo 1 unit
  let bits := (value / gap).floor
  let gapBelow := if bits = leastFullBits ∧ -1074 < unit then gap / 2 else gap
  { lower := value - gapBelow / 2
    upper := value + gap / 2
    closed := bits % 2 = 0 }

def contains (interval : RoundingInterval) (number : Rat) : Bool :=
  (interval.lower < number && number < interval.upper) ||
    (interval.closed && (number = interval.lower || number = interval.upper))

end RoundingInterval

/-- The two multiples of `10 ^ exponent` around a number, as factors, the nearer one first. -/
def decimalNeighbours (number : Rat) (exponent : Int) : List Int :=
  let scaled := number / 10 ^ exponent
  let below := scaled.floor
  let rest := scaled - below
  if rest < 1 / 2 ∨ (rest = 1 / 2 ∧ below % 2 = 0) then
    [below, below + 1]
  else
    [below + 1, below]

/-- The digits of the shortest decimal of a positive double and their exponent of ten: one digit is
tried first, then two, and so on.  Seventeen digits always suffice; the exact value stands in for
the case that they did not. -/
def shortestDigits (value : Rat) : Int × Int :=
  let interval := RoundingInterval.around value
  let first := leadingOfQuotient value.num.natAbs value.den
  let attempt (more : Nat) : Option (Int × Int) :=
    let exponent := first - more
    ((decimalNeighbours value exponent).find? fun (digits : Int) =>
      interval.contains ((digits : Rat) * 10 ^ exponent)).map (·, exponent)
  ((List.range 17).findSome? attempt).getD
    ((value * 10 ^ (value.den.log2 : Int)).num, -(value.den.log2 : Int))

namespace Double

def toDecimal : Double → ExtendedDecimal
  | .finite value =>
    if value = 0 then
      .finite .zero
    else if value < 0 then
      let digits := shortestDigits (-value)
      .ofScaled (-digits.1) digits.2
    else
      let digits := shortestDigits value
      .ofScaled digits.1 digits.2
  | .infinite negative => .infinite negative
  | .notANumber => .notANumber

def text (number : Double) : String :=
  number.toDecimal.text

end Double

end Eligibility
