import Eligibility.Decimal.Radix

/-!
# Reading decimals

A text is a number in base ten, sixteen, eight or two, or one of two words, with an optional
sign in front.  An underscore may stand between two decimal digits.
-/

set_option autoImplicit false

namespace Eligibility

namespace ExtendedDecimal

/-- The characters without the underscores that stand between two decimal digits. -/
def dropSeparators : List Char → List Char
  | before :: '_' :: after :: rest =>
    if before.isDigit ∧ after.isDigit then
      before :: dropSeparators (after :: rest)
    else
      before :: dropSeparators ('_' :: after :: rest)
  | character :: rest => character :: dropSeparators rest
  | [] => []

def readWord? (negative : Bool) (characters : List Char) : Option ExtendedDecimal :=
  if characters = "Infinity".toList then
    some (.infinite negative)
  else if characters = "NaN".toList then
    some .notANumber
  else
    none

def readUnsigned? (negative : Bool) (characters : List Char) : Option ExtendedDecimal :=
  match Literal.readDecimal? characters with
  | some literal => some (literal.toDecimal negative)
  | none => (readWord? negative characters).or (Radix.read? negative characters)

def read? (characters : List Char) : Option ExtendedDecimal :=
  match dropSeparators characters with
  | '-' :: rest => readUnsigned? true rest
  | '+' :: rest => readUnsigned? false rest
  | rest => readUnsigned? false rest

end ExtendedDecimal

end Eligibility
