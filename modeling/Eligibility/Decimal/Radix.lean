import Eligibility.Decimal.Literal
import Eligibility.Double.Shortest

/-!
# Literals in base two, eight and sixteen

A letter after a leading zero names the base, and an exponent after `p` is a power of two.  The
digits are converted exactly.  A power of two with an exponent below `Radix.smallExponent` is
multiplied in as the shortest decimal of the double it is; another one is rounded to
`Radix.digits` digits first, and the product after it.  Beyond `Radix.exponentLimit` a power is
an infinity, or nothing.
-/

set_option autoImplicit false

namespace Eligibility

namespace Radix

/-- The base that a letter stands for, as an exponent of two. -/
def bitsPerDigit? (letter : Char) : Option Nat :=
  match letter.toLower with
  | 'x' => some 4
  | 'o' => some 3
  | 'b' => some 1
  | _ => none

def digitValue (character : Char) : Nat :=
  if character.isDigit then character.toNat - 48 else character.toLower.toNat - 87

def isDigit (bits : Nat) (character : Char) : Bool :=
  (character.isDigit || ('a' ≤ character.toLower && character.toLower ≤ 'f')) &&
    digitValue character < raise 2 1 bits

def ofDigits (bits : Nat) (characters : List Char) : Nat :=
  characters.foldl (fun value character => raise 2 value bits + digitValue character) 0

/-- The size of an exponent from which a power of two is rounded before it is multiplied in. -/
def smallExponent : Nat := 54

def digits : Nat := 20

/-- The digits carried along while a large power of two is computed. -/
def guardDigits : Nat := 60

def truncate (number : Nat × Nat) : Nat × Nat :=
  let surplus := digitCount number.1 - guardDigits
  (number.1 / raise 10 1 surplus, number.2 + surplus)

/-- `2 ^ exponent` as a coefficient and a power of ten, to `guardDigits` digits. -/
def powerOfTwo (exponent : Nat) : Nat × Nat :=
  if _ : exponent = 0 then
    (1, 0)
  else
    let root := powerOfTwo (exponent / 2)
    let factor := if exponent % 2 = 0 then 1 else 2
    truncate (root.1 * root.1 * factor, root.2 + root.2)
termination_by exponent

def rounded (numerator denominator : Nat) (exponent : Int) : Nat × Int :=
  let result := roundSignificant digits numerator denominator
  (result.1, result.2 + exponent)

def powerFactor (exponent : Int) : Nat × Int :=
  if exponent.natAbs < smallExponent then
    let digits := shortestDigits (2 ^ exponent)
    (digits.1.toNat, digits.2)
  else
    let power := powerOfTwo exponent.natAbs
    if 0 < exponent then rounded power.1 1 power.2 else rounded 1 power.1 (-power.2)

/-- The exponent that a written one stands for: the shortest decimal of the double nearest to it.
Every exponent of at most 53 bits stands for itself. -/
def heldExponent (exponent : Int) : Int :=
  if exponent = 0 then
    0
  else
    let held := shortestDigits (nearestDouble exponent.natAbs)
    exponent.sign * raise 10 held.1.toNat held.2

def withBinaryExponent (magnitude : Nat) (shift exponent : Int) : Nat × Int :=
  if exponent = 0 ∨ magnitude = 0 then
    (magnitude, shift)
  else
    let power := powerFactor exponent
    let product := magnitude * power.1
    if exponent.natAbs < smallExponent then
      (product, shift + power.2)
    else
      rounded product 1 (shift + power.2)

def exponentLimit : Nat := 29897352853986261

def toDecimal (bits : Nat) (negative : Bool) (literal : Literal) : ExtendedDecimal :=
  let places := bits * literal.fraction.length
  let magnitude := raise 5 (ofDigits bits (literal.whole ++ literal.fraction)) places
  if magnitude ≠ 0 ∧ exponentLimit < literal.exponent.natAbs then
    if literal.exponent < 0 then .finite .zero else .infinite negative
  else
    let scaled := withBinaryExponent magnitude (-(places : Int)) (heldExponent literal.exponent)
    .ofScaled (if negative then -(scaled.1 : Int) else scaled.1) scaled.2

def read? (negative : Bool) : List Char → Option ExtendedDecimal
  | '0' :: letter :: rest =>
    (bitsPerDigit? letter).bind fun bits =>
      (Literal.read? (isDigit bits) 'p' rest).map (toDecimal bits negative)
  | _ => none

end Radix

end Eligibility
