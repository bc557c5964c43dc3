import Eligibility.Text.CaseTable

/-!
# Lower case

Every character is replaced by its lower-case form.  Two characters need more than the table: the
capital sigma takes its final form at the end of a word, and the dotted capital I keeps its dot as
a mark of its own.
-/

set_option autoImplicit false

namespace Eligibility.Text

def inRanges (ranges : List (Nat × Nat)) (code : Nat) : Bool :=
  ranges.any fun range => range.1 ≤ code && code ≤ range.2

def isCased (character : Char) : Bool :=
  inRanges casedRanges character.toNat

/-- A character that is passed over when a neighbour with a case is looked for. -/
def isCaseIgnorable (character : Char) : Bool :=
  inRanges ignorableRanges character.toNat

def lowerCharacter (character : Char) : Char :=
  let code := character.toNat
  if code < 0x80 then
    character.toLower
  else
    match lowerRanges.find? fun range =>
        range.first ≤ code && code ≤ range.last && (code - range.first) % range.step = 0 with
    | some range => Char.ofNat (range.lower + (code - range.first))
    | none => character

/-- Whether the nearest character that is not passed over has a case. -/
def meetsCased (characters : List Char) : Bool :=
  match characters.dropWhile isCaseIgnorable with
  | character :: _ => isCased character
  | [] => false

def lowerBetween (before : List Char) (character : Char) (after : List Char) : List Char :=
  if character = 'Σ' then
    if meetsCased before ∧ ¬ meetsCased after then ['ς'] else ['σ']
  else if character = 'İ' then
    ['i', '\u0307']
  else
    [lowerCharacter character]

/-- The lower-case form of the rest of a text, after the characters `before`, nearest first. -/
def lowerFrom (before : List Char) : List Char → List Char
  | [] => []
  | character :: after =>
    lowerBetween before character after ++ lowerFrom (character :: before) after

def lowercase (text : String) : String :=
  String.ofList (lowerFrom [] text.toList)

end Eligibility.Text
