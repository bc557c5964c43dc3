import Eligibility.Proofs.Basic
import Eligibility.Proofs.Description.Outline

/-!
# Reading a part of a description

A part starts with a word, which is empty for a group, and what is in parentheses behind the word
ends where they close.  Behind a part stands a closing parenthesis or a blank, behind a whole rule
no blank.  So the letters up to there tell the outline of a part.
-/

set_option autoImplicit false

namespace Eligibility

namespace Rule

/-! ## Words and parentheses -/

/-- How a part is written: a word, and behind it, unless the part is a constant, what stands in
parentheses. -/
inductive IsSpelled : Rule Unit String → List Char → Option (List Char) → Prop
  | leaf (name parameters : String) (isName : IsName name) (noNegation : name ≠ "Not")
      (plain : ∀ character ∈ parameters.toList, character ≠ '(' ∧ character ≠ ')') :
      IsSpelled (.leaf () (name ++ "(" ++ parameters ++ ")")) name.toList (some parameters.toList)
  | constant (verdict : Bool) :
      IsSpelled (.constant () verdict) (if verdict then "True" else "False").toList none
  | negation (operand : Rule Unit String) :
      IsSpelled (.negation () operand) "Not".toList (some operand.letters)
  | group (outline : Rule Unit String) (joined : outline.joined? ≠ none) :
      IsSpelled outline [] (some outline.letters)

def bracketed : Option (List Char) → List Char
  | none => []
  | some inside => '(' :: inside ++ [')']

theorem exists_spelling (outline : Rule Unit String) (legible : outline.IsLegible) :
    ∃ word inside, IsSpelled outline word inside := by
  cases outline with
  | leaf label text =>
      obtain ⟨name, parameters, same, isName, noNegation, plain⟩ :=
        legible.leafTexts ((), text) (by simp)
      change text = _ at same
      subst same
      exact ⟨_, _, .leaf name parameters isName noNegation plain⟩
  | constant label verdict => exact ⟨_, _, .constant verdict⟩
  | negation label operand => exact ⟨_, _, .negation operand⟩
  | compound label connective children => exact ⟨_, _, .group _ (Option.some_ne_none _)⟩
  | exclusive label left right => exact ⟨_, _, .group _ (Option.some_ne_none _)⟩

theorem partLetters_of_spelled (outline : Rule Unit String) (legible : outline.IsLegible)
    (word : List Char) (inside : Option (List Char)) (spelled : IsSpelled outline word inside) :
    outline.partLetters = word ++ bracketed inside := by
  cases spelled with
  | leaf name parameters isName noNegation plain =>
      change (name ++ "(" ++ parameters ++ ")").toList = _
      simp [bracketed]
  | constant verdict => exact (List.append_nil _).symm
  | negation operand =>
      change ("Not(" ++ (operand.accept (describer id)).text ++ ")").toList = _
      simp [bracketed, letters, describe]
  | group outline joined => exact partLetters_of_joined outline legible.branching joined

theorem word_of_spelled (outline : Rule Unit String) (word : List Char)
    (inside : Option (List Char)) (spelled : IsSpelled outline word inside) :
    ∀ character ∈ word, isDelimiter character = false := by
  cases spelled with
  | leaf name parameters isName noNegation plain => exact isName.2
  | constant verdict => cases verdict <;> simp [isDelimiter]
  | negation operand => simp [isDelimiter]
  | group outline joined => simp

/-! ## What may stand behind -/

def Closes (rest : List Char) : Prop :=
  ∀ character ∈ rest.head?, character = ')'

def EndsPart (rest : List Char) : Prop :=
  ∀ character ∈ rest.head?, character = ')' ∨ character = ' '

theorem closes_cons (rest : List Char) : Closes (')' :: rest) := by
  simp [Closes]

theorem Closes.endsPart (rest : List Char) (closes : Closes rest) : EndsPart rest :=
  fun character isHead => .inl (closes character isHead)

theorem isDelimiter_of_behind_word (inside : Option (List Char)) (rest : List Char)
    (ends : EndsPart rest) :
    ∀ character ∈ (bracketed inside ++ rest).head?, isDelimiter character = true := by
  cases inside with
  | none =>
      intro character isHead
      rcases ends character isHead with rfl | rfl <;> rfl
  | some inside =>
      intro character isHead
      cases isHead
      rfl

theorem endsPart_ne_bracketed (inside rest other : List Char) (ends : EndsPart rest) :
    rest ≠ bracketed (some inside) ++ other := by
  rintro rfl
  rcases ends '(' rfl with same | same <;> cases same

/-- Behind equal words there are parentheses either in both texts or in none. -/
theorem behind_cases (inside otherInside : Option (List Char)) (rest otherRest : List Char)
    (ends : EndsPart rest) (otherEnds : EndsPart otherRest)
    (same : bracketed inside ++ rest = bracketed otherInside ++ otherRest) :
    (inside = none ∧ otherInside = none ∧ rest = otherRest) ∨
      ∃ letters otherLetters, inside = some letters ∧ otherInside = some otherLetters ∧
        letters ++ ')' :: rest = otherLetters ++ ')' :: otherRest := by
  cases inside with
  | none =>
      cases otherInside with
      | none => exact .inl ⟨rfl, rfl, same⟩
      | some otherLetters =>
          exact absurd same (endsPart_ne_bracketed otherLetters rest otherRest ends)
  | some letters =>
      cases otherInside with
      | none => exact absurd same.symm (endsPart_ne_bracketed letters otherRest rest otherEnds)
      | some otherLetters =>
          refine .inr ⟨letters, otherLetters, rfl, rfl, ?_⟩
          simpa [bracketed] using same

/-! ## Reading from the left -/

/-- The outline of a part is read off the letters, whatever stands behind a part. -/
def IsReadAsPart (outline : Rule Unit String) : Prop :=
  ∀ other : Rule Unit String, other.IsLegible → ∀ rest otherRest : List Char,
    EndsPart rest → EndsPart otherRest →
    outline.partLetters ++ rest = other.partLetters ++ otherRest →
    outline = other ∧ rest = otherRest

/-- The outline of a whole rule is read off the letters up to a closing parenthesis. -/
def IsReadAlone (outline : Rule Unit String) : Prop :=
  ∀ other : Rule Unit String, other.IsLegible → ∀ rest otherRest : List Char,
    Closes rest → Closes otherRest →
    outline.letters ++ rest = other.letters ++ otherRest →
    outline = other ∧ rest = otherRest

theorem constant_of_spelled (outline other : Rule Unit String) (word otherWord : List Char)
    (spelled : IsSpelled outline word none) (otherSpelled : IsSpelled other otherWord none)
    (sameWord : word = otherWord) : outline = other := by
  cases spelled with
  | constant verdict =>
      cases otherSpelled with
      | constant otherVerdict =>
          cases verdict <;> cases otherVerdict <;> first | rfl | cases sameWord

/-- Leaves, negations and groups differ in their words, and what is in parentheses ends where these
close. -/
theorem same_of_spelled (outline other : Rule Unit String) (otherLegible : other.IsLegible)
    (innerRead : ∀ inner ∈ outline.inner?, IsReadAlone inner)
    (word otherWord inside otherInside rest otherRest : List Char)
    (spelled : IsSpelled outline word (some inside))
    (otherSpelled : IsSpelled other otherWord (some otherInside)) (sameWord : word = otherWord)
    (sameInside : inside ++ ')' :: rest = otherInside ++ ')' :: otherRest) :
    outline = other ∧ rest = otherRest := by
  cases spelled with
  | leaf name parameters isName noNegation plain =>
      cases otherSpelled with
      | leaf otherName otherParameters otherIsName otherNoNegation otherPlain =>
          obtain ⟨sameParameters, sameRest⟩ := cut_unique (· != ')')
            (by simpa using fun character member => (plain character member).2)
            (by simpa using fun character member => (otherPlain character member).2)
            (by simp) (by simp) sameInside
          rw [String.toList_inj.mp sameWord, String.toList_inj.mp sameParameters]
          exact ⟨rfl, List.tail_eq_of_cons_eq sameRest⟩
      | negation operand => exact absurd (String.toList_inj.mp sameWord) noNegation
      | group other joined => exact absurd (String.toList_inj.mp sameWord) isName.1
  | negation operand =>
      cases otherSpelled with
      | leaf otherName otherParameters otherIsName otherNoNegation otherPlain =>
          exact absurd (String.toList_inj.mp sameWord.symm) otherNoNegation
      | negation otherOperand =>
          have operandLegible := isLegible_part _ otherOperand otherLegible (by simp [parts])
          obtain ⟨rfl, sameRest⟩ := innerRead operand rfl otherOperand operandLegible _ _
            (closes_cons rest) (closes_cons otherRest) sameInside
          exact ⟨rfl, List.tail_eq_of_cons_eq sameRest⟩
      | group other joined => cases sameWord
  | group outline joined =>
      cases otherSpelled with
      | leaf otherName otherParameters otherIsName otherNoNegation otherPlain =>
          exact absurd (String.toList_inj.mp sameWord.symm) otherIsName.1
      | negation otherOperand => cases sameWord
      | group other otherJoined =>
          obtain ⟨rfl, sameRest⟩ := innerRead outline (inner?_of_joined outline joined) other
            otherLegible _ _ (closes_cons rest) (closes_cons otherRest) sameInside
          exact ⟨rfl, List.tail_eq_of_cons_eq sameRest⟩

/-- A part is read by its word and by what stands in parentheses. -/
theorem isReadAsPart_of_inner (outline : Rule Unit String) (legible : outline.IsLegible)
    (innerRead : ∀ inner ∈ outline.inner?, IsReadAlone inner) : outline.IsReadAsPart := by
  intro other otherLegible rest otherRest ends otherEnds same
  obtain ⟨word, inside, spelled⟩ := exists_spelling outline legible
  obtain ⟨otherWord, otherInside, otherSpelled⟩ := exists_spelling other otherLegible
  rw [partLetters_of_spelled outline legible word inside spelled,
    partLetters_of_spelled other otherLegible otherWord otherInside otherSpelled,
    List.append_assoc, List.append_assoc] at same
  obtain ⟨sameWord, sameBehind⟩ := cut_unique (!isDelimiter ·)
    (by simpa using word_of_spelled outline word inside spelled)
    (by simpa using word_of_spelled other otherWord otherInside otherSpelled)
    (by simpa using isDelimiter_of_behind_word inside rest ends)
    (by simpa using isDelimiter_of_behind_word otherInside otherRest otherEnds) same
  rcases behind_cases inside otherInside rest otherRest ends otherEnds sameBehind with
    ⟨rfl, rfl, sameRest⟩ | ⟨letters, otherLetters, rfl, rfl, sameInside⟩
  · exact ⟨constant_of_spelled outline other word otherWord spelled otherSpelled sameWord,
      sameRest⟩
  · exact same_of_spelled outline other otherLegible innerRead word otherWord letters otherLetters
      rest otherRest spelled otherSpelled sameWord sameInside

end Rule

end Eligibility
