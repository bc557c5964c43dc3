import Eligibility.Decimal.Basic

/-!
# Decimal literals

A literal is digits with an optional point and an optional exponent, as in `12`, `.5`, `5.` and
`1.5e-3`.  The parts of a literal are kept apart so that other bases share them.
-/

set_option autoImplicit false

namespace Eligibility

/-- The digits of a literal on both sides of its point, and its exponent. -/
structure Literal where
  whole : List Char
  fraction : List Char
  exponent : Int
  deriving DecidableEq

namespace Literal

def readDigits? (characters : List Char) : Option Nat :=
  if characters ≠ [] ∧ characters.all Char.isDigit then
    some (ofDecimalDigits characters)
  else
    none

def readSigned? : List Char → Option Int
  | '-' :: digits => (readDigits? digits).map fun value => -(value : Int)
  | '+' :: digits => (readDigits? digits).map fun value => (value : Int)
  | digits => (readDigits? digits).map fun value => (value : Int)

/-- What follows the digits: nothing, or an exponent after its mark in either case. -/
def readExponent? (mark : Char) : List Char → Option Int
  | [] => some 0
  | character :: exponent => if character.toLower = mark then readSigned? exponent else none

/-- The literal made of the digits that `isDigit` accepts, with at least one of them, and an
exponent behind `mark`. -/
def read? (isDigit : Char → Bool) (mark : Char) (characters : List Char) : Option Literal :=
  let whole := characters.takeWhile isDigit
  match characters.dropWhile isDigit with
  | '.' :: rest =>
    let fraction := rest.takeWhile isDigit
    if whole = [] ∧ fraction = [] then
      none
    else
      (readExponent? mark (rest.dropWhile isDigit)).map (Literal.mk whole fraction)
  | rest =>
    if whole = [] then none else (readExponent? mark rest).map (Literal.mk whole [])

def toDecimal (negative : Bool) (literal : Literal) : ExtendedDecimal :=
  let magnitude := ofDecimalDigits (literal.whole ++ literal.fraction)
  .ofScaled (if negative then -(magnitude : Int) else magnitude)
    (literal.exponent - literal.fraction.length)

def readDecimal? (characters : List Char) : Option Literal :=
  read? Char.isDigit 'e' characters

end Literal

end Eligibility
