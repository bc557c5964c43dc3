import Eligibility.Text.Blank
import Eligibility.Text.Lowercase
import Mathlib

/-!
# The table of letters

A character outside the ranges of the table is the lower-case form of itself and of no other one.
The blank characters are such characters, and none of them has a case.
-/

set_option autoImplicit false

namespace Eligibility.Text

/-! ## Characters that lower case leaves alone -/

def CaseRange.avoids (range : CaseRange) (code : Nat) : Bool :=
  (code < range.first || range.last < code) &&
    (code < range.lower || range.lower + (range.last - range.first) < code)

/-- A character that is no letter of the tables, neither a capital one nor a lower-case one. -/
def standsApart (special : Char) : Bool :=
  special.toNat ≠ 0 && !special.isAlpha && lowerRanges.all (·.avoids special.toNat)

theorem toLower_eq_iff {special : Char} (noLetter : special.isAlpha = false) (character : Char) :
    character.toLower = special ↔ character = special := by
  by_cases upper : character.isUpper = true
  case neg => rw [Char.toLower_eq_of_not_isUpper upper]
  case pos =>
    have letter : character.isAlpha = true := by rw [Char.isAlpha, upper, Bool.true_or]
    have unequal : character.toLower ≠ special := by
      rintro rfl
      rw [Char.isAlpha_toLower_eq_isAlpha, letter] at noLetter
      cases noLetter
    have alsoUnequal : character ≠ special := by
      rintro rfl
      rw [letter] at noLetter
      cases noLetter
    exact iff_of_false unequal alsoUnequal

/-- A character that stands apart is the lower-case form of itself and of no other one. -/
theorem lowerCharacter_eq_iff {special : Char} (apart : standsApart special = true)
    (character : Char) : lowerCharacter character = special ↔ character = special := by
  simp only [standsApart, Bool.and_eq_true, decide_eq_true_eq, Bool.not_eq_true',
    List.all_eq_true] at apart
  obtain ⟨⟨nonzero, noLetter⟩, avoided⟩ := apart
  rw [lowerCharacter]
  split
  case isTrue => exact toLower_eq_iff noLetter character
  case isFalse =>
    split
    case h_2 => exact Iff.rfl
    case h_1 range found =>
      have within := List.find?_some found
      have avoids := avoided range (List.mem_of_find?_eq_some found)
      simp only [CaseRange.avoids, Bool.and_eq_true, Bool.or_eq_true, decide_eq_true_eq]
        at avoids within
      constructor
      · rintro rfl
        rw [Char.toNat_ofNat] at avoids nonzero
        split at avoids
        case isTrue => omega
        case isFalse invalid => exact absurd (if_neg invalid) nonzero
      · rintro rfl
        omega

/-! ## Blank characters have no case -/

def blankCodes : List Nat :=
  [0x09, 0x0A, 0x0B, 0x0C, 0x0D, 0x20, 0xA0, 0x1680, 0x2000, 0x2001, 0x2002, 0x2003, 0x2004, 0x2005,
    0x2006, 0x2007, 0x2008, 0x2009, 0x200A, 0x2028, 0x2029, 0x202F, 0x205F, 0x3000, 0xFEFF]

theorem mem_blankCodes {character : Char} (blank : isBlank character = true) :
    character.toNat ∈ blankCodes := by
  simp only [isBlank, Bool.or_eq_true, Bool.and_eq_true, decide_eq_true_eq] at blank
  simp only [blankCodes, List.mem_cons, List.not_mem_nil, or_false]
  omega

theorem standsApart_of_mem_blankCodes :
    ∀ code ∈ blankCodes, standsApart (Char.ofNat code) = true := by
  decide +kernel

theorem standsApart_of_isBlank {character : Char} (blank : isBlank character = true) :
    standsApart character = true := by
  have apart := standsApart_of_mem_blankCodes _ (mem_blankCodes blank)
  rwa [Char.ofNat_toNat] at apart

theorem isCased_of_mem_blankCodes :
    ∀ code ∈ blankCodes, inRanges casedRanges code = false := by
  decide +kernel

theorem isCased_of_isBlank {character : Char} (blank : isBlank character = true) :
    isCased character = false :=
  isCased_of_mem_blankCodes _ (mem_blankCodes blank)

theorem isBlank_lowerCharacter (character : Char) :
    isBlank (lowerCharacter character) = isBlank character := by
  rw [Bool.eq_iff_iff]
  constructor
  · intro blank
    have same := (lowerCharacter_eq_iff (standsApart_of_isBlank blank) character).mp rfl
    rwa [← same] at blank
  · intro blank
    rwa [(lowerCharacter_eq_iff (standsApart_of_isBlank blank) character).mpr rfl]

/-! ## The two special letters -/

theorem lowerCharacter_dotted (character : Char) :
    lowerCharacter character = 'İ' ↔ character = 'İ' :=
  lowerCharacter_eq_iff (by decide +kernel) character

theorem lowerCharacter_sigma : lowerCharacter 'Σ' = 'σ' := by
  decide +kernel

end Eligibility.Text
