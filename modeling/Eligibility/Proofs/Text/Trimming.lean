import Eligibility.Text.Blank
import Mathlib.Data.List.TakeWhile

/-!
# Blank characters around a text

Trimming keeps the part of a text that lies between the blank characters at its ends.  There is one
such part, so more blank characters around the text do not change it.
-/

set_option autoImplicit false

namespace Eligibility.Text

def IsBlankText (characters : List Char) : Prop :=
  ∀ character ∈ characters, isBlank character = true

/-- Characters of which neither the first nor the last one is blank. -/
def IsTrimmed (characters : List Char) : Prop :=
  (∀ character ∈ characters.head?, isBlank character = false) ∧
    ∀ character ∈ characters.getLast?, isBlank character = false

abbrev Padding := { characters : List Char // IsBlankText characters }

theorem isBlank_of_isDigit {character : Char} (digit : character.isDigit = true) :
    isBlank character = false := by
  have range : 48 ≤ character.toNat ∧ character.toNat ≤ 57 := by
    rw [Char.isDigit, Bool.and_eq_true, decide_eq_true_iff, decide_eq_true_iff] at digit
    exact digit
  simp only [isBlank, Bool.or_eq_false_iff, Bool.and_eq_false_iff, decide_eq_false_iff_not]
  omega

variable {characters front back : List Char}

theorem IsBlankText.reverse (blank : IsBlankText characters) : IsBlankText characters.reverse :=
  fun character member => blank character (List.mem_reverse.mp member)

theorem isBlankText_takeWhile : IsBlankText (characters.takeWhile isBlank) :=
  fun _ member => List.mem_takeWhile_imp member

theorem IsBlankText.dropWhile (blank : IsBlankText characters) :
    characters.dropWhile isBlank = [] :=
  List.dropWhile_eq_nil_iff.mpr blank

theorem dropWhile_isBlank_eq_self
    (starts : ∀ character ∈ characters.head?, isBlank character = false) :
    characters.dropWhile isBlank = characters := by
  cases characters with
  | nil => rfl
  | cons first rest => rw [List.dropWhile_cons, starts first rfl, if_neg Bool.false_ne_true]

theorem head_dropWhile_isBlank :
    ∀ character ∈ (characters.dropWhile isBlank).head?, isBlank character = false := by
  intro character found
  have fails := List.head?_dropWhile_not isBlank characters
  rw [Option.mem_def.mp found] at fails
  simpa using fails

theorem isTrimmed_of_not_blank (visible : ∀ character ∈ characters, isBlank character = false) :
    IsTrimmed characters :=
  ⟨fun character found => visible character (List.mem_of_mem_head? found),
    fun character found => visible character (List.mem_of_mem_getLast? found)⟩

theorem trim_eq_self (trimmed : IsTrimmed characters) : trim characters = characters := by
  have ends : ∀ character ∈ characters.reverse.head?, isBlank character = false := by
    rw [List.head?_reverse]
    exact trimmed.2
  rw [trim, dropWhile_isBlank_eq_self trimmed.1, dropWhile_isBlank_eq_self ends,
    List.reverse_reverse]

theorem trim_append_blank (blank : IsBlankText back) :
    trim (characters ++ back) = trim characters := by
  rw [trim, trim, List.dropWhile_append]
  split
  case isTrue nothing =>
    rw [List.isEmpty_iff.mp nothing, blank.dropWhile]
  case isFalse _ =>
    rw [List.reverse_append, List.dropWhile_append_of_pos blank.reverse]

theorem trim_blank_append (blank : IsBlankText front) :
    trim (front ++ characters) = trim characters := by
  rw [trim, trim, List.dropWhile_append_of_pos blank]

theorem trim_padded (frontBlank : IsBlankText front) (backBlank : IsBlankText back) :
    trim (front ++ characters ++ back) = trim characters := by
  rw [trim_append_blank backBlank, trim_blank_append frontBlank]

/-- What is left of a text is trimmed and lies between blank characters. -/
theorem trim_spec (characters : List Char) :
    IsTrimmed (trim characters) ∧ ∃ front back, IsBlankText front ∧ IsBlankText back ∧
      characters = front ++ trim characters ++ back := by
  have outer := List.takeWhile_append_dropWhile (p := isBlank) (l := characters)
  have starts := @head_dropWhile_isBlank characters
  rw [trim]
  generalize characters.dropWhile isBlank = rest at outer starts
  have inner := List.takeWhile_append_dropWhile (p := isBlank) (l := rest.reverse)
  have ends := @head_dropWhile_isBlank rest.reverse
  generalize rest.reverse.dropWhile isBlank = kept at inner ends
  have split : rest = kept.reverse ++ (rest.reverse.takeWhile isBlank).reverse := by
    rw [← List.reverse_append, inner, List.reverse_reverse]
  refine ⟨⟨?_, ?_⟩, characters.takeWhile isBlank, (rest.reverse.takeWhile isBlank).reverse,
    isBlankText_takeWhile, isBlankText_takeWhile.reverse, ?_⟩
  · intro character found
    apply starts
    rw [split, List.head?_append, Option.mem_def.mp found]
    rfl
  · rw [List.getLast?_reverse]
    exact ends
  · rw [List.append_assoc, ← split, outer]

theorem trim_eq_iff (whole inside : List Char) :
    trim whole = inside ↔ IsTrimmed inside ∧ ∃ front back, IsBlankText front ∧ IsBlankText back ∧
      whole = front ++ inside ++ back := by
  constructor
  · rintro rfl
    exact trim_spec whole
  · rintro ⟨trimmed, front, back, frontBlank, backBlank, rfl⟩
    rw [trim_padded frontBlank backBlank, trim_eq_self trimmed]

theorem trim_eq_nil_iff : trim characters = [] ↔ IsBlankText characters := by
  constructor
  · intro nothing
    obtain ⟨-, front, back, frontBlank, backBlank, same⟩ := trim_spec characters
    rw [nothing, List.append_nil] at same
    intro character member
    rw [same, List.mem_append] at member
    exact member.elim (frontBlank character) (backBlank character)
  · intro blank
    rw [trim, blank.dropWhile]
    rfl

end Eligibility.Text
