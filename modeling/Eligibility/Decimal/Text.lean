import Eligibility.Decimal.Basic

/-!
# The text of a decimal

Digits are written positionally while the exponent of the first digit lies in
`Decimal.positionalFrom ..< Decimal.positionalBelow`, and as a first digit, a fraction and a
signed exponent otherwise.
-/

set_option autoImplicit false

namespace Eligibility

namespace Decimal

/-- The least exponent of the first digit that is written positionally. -/
def positionalFrom : Int := -6

def positionalBelow : Int := 21

def zeros (count : Nat) : List Char :=
  List.replicate count '0'

/-- A point and the digits after it, or nothing when there are none. -/
def fractionText (digits : List Char) : List Char :=
  if digits = [] then [] else '.' :: digits

def exponentText (exponent : Int) : List Char :=
  'e' :: (if exponent < 0 then '-' else '+') :: decimalDigits exponent.natAbs

/-- The magnitude `digits * 10 ^ exponent`, where `digits` is not empty. -/
def layout (digits : List Char) (exponent : Int) : List Char :=
  let first := exponent + digits.length - 1
  if first < positionalFrom ∨ positionalBelow ≤ first then
    digits.take 1 ++ fractionText (digits.drop 1) ++ exponentText first
  else if 0 ≤ exponent then
    digits ++ zeros exponent.toNat
  else if 0 ≤ first then
    digits.take (first + 1).toNat ++ fractionText (digits.drop (first + 1).toNat)
  else
    '0' :: '.' :: zeros (-first - 1).toNat ++ digits

def chars (value : Decimal) : List Char :=
  let magnitude := layout (decimalDigits value.coefficient.natAbs) value.exponent
  if value.coefficient < 0 then '-' :: magnitude else magnitude

def text (value : Decimal) : String :=
  String.ofList value.chars

end Decimal

namespace ExtendedDecimal

def text : ExtendedDecimal → String
  | .finite value => value.text
  | .infinite negative => if negative then "-Infinity" else "Infinity"
  | .notANumber => "NaN"

end ExtendedDecimal

end Eligibility
