import Eligibility.Graph.Answer
import Eligibility.Proofs.Description.Part

/-!
# Reading descriptions

Parts are read one after the other, each up to the separator behind it, and the first separator
tells the connective.  Hence two rules have the same description only if they have the same
outline.
-/

set_option autoImplicit false

namespace Eligibility

namespace Rule

/-! ## Lists of parts -/

def tailLetters (separator : String) (parts : List (Rule Unit String)) : List Char :=
  parts.flatMap fun part => separator.toList ++ part.partLetters

theorem intercalate_partLetters (separator : String) (first : Rule Unit String)
    (parts : List (Rule Unit String)) :
    separator.toList.intercalate ((first :: parts).map partLetters) =
      first.partLetters ++ tailLetters separator parts := by
  induction parts generalizing first with
  | nil => simp [tailLetters]
  | cons second others ih =>
      rw [List.map_cons, List.map_cons, List.intercalate_cons_cons, ← List.map_cons, ih]
      simp [tailLetters]

def IsSeparator (separator : String) : Prop :=
  separator = " And " ∨ separator = " Or " ∨ separator = " Xor "

theorem separator_of_joined (outline : Rule Unit String) (separator : String)
    (parts : List (Rule Unit String)) (joined : outline.joined? = some (separator, parts)) :
    IsSeparator separator := by
  cases outline with
  | leaf label text => cases joined
  | constant label verdict => cases joined
  | negation label operand => cases joined
  | compound label connective children =>
      cases joined
      cases connective
      · exact .inl rfl
      · exact .inr (.inl rfl)
  | exclusive label left right =>
      cases joined
      exact .inr (.inr rfl)

/-- The first letter of the word in it tells a separator. -/
theorem separator_unique (separator other : String) (rest otherRest : List Char)
    (isSeparator : IsSeparator separator) (otherIsSeparator : IsSeparator other)
    (same : separator.toList ++ rest = other.toList ++ otherRest) : separator = other := by
  rcases isSeparator with rfl | rfl | rfl <;> rcases otherIsSeparator with rfl | rfl | rfl <;>
    first | rfl | simp at same

theorem separator_injective (connective other : Connective)
    (same : connective.separator = other.separator) : connective = other := by
  cases connective <;> cases other <;> first | rfl | simp [Connective.separator] at same

theorem separator_ne_exclusive (connective : Connective) : connective.separator ≠ " Xor " := by
  cases connective <;> decide

theorem joined?_unique (outline other : Rule Unit String) (separator : String)
    (parts : List (Rule Unit String)) (joined : outline.joined? = some (separator, parts))
    (otherJoined : other.joined? = some (separator, parts)) : outline = other := by
  cases outline with
  | leaf label text => cases joined
  | constant label verdict => cases joined
  | negation label operand => cases joined
  | compound label connective children =>
      cases joined
      cases other with
      | leaf label text => cases otherJoined
      | constant label verdict => cases otherJoined
      | negation label operand => cases otherJoined
      | compound otherLabel otherConnective otherChildren =>
          simp only [joined?, Option.some.injEq, Prod.mk.injEq] at otherJoined
          rw [separator_injective _ _ otherJoined.1, otherJoined.2]
      | exclusive otherLabel left right =>
          simp only [joined?, Option.some.injEq, Prod.mk.injEq] at otherJoined
          exact absurd otherJoined.1.symm (separator_ne_exclusive connective)
  | exclusive label left right =>
      cases joined
      cases other with
      | leaf label text => cases otherJoined
      | constant label verdict => cases otherJoined
      | negation label operand => cases otherJoined
      | compound otherLabel otherConnective otherChildren =>
          simp only [joined?, Option.some.injEq, Prod.mk.injEq] at otherJoined
          exact absurd otherJoined.1 (separator_ne_exclusive otherConnective)
      | exclusive otherLabel otherLeft otherRight =>
          cases otherJoined
          rfl

theorem tailLetters_cons (separator : String) (part : Rule Unit String)
    (parts : List (Rule Unit String)) (rest : List Char) :
    tailLetters separator (part :: parts) ++ rest =
      separator.toList ++ (part.partLetters ++ (tailLetters separator parts ++ rest)) := by
  simp [tailLetters]

theorem not_closes_tail (separator : String) (isSeparator : IsSeparator separator)
    (part : Rule Unit String) (parts : List (Rule Unit String)) (rest : List Char) :
    ¬Closes (tailLetters separator (part :: parts) ++ rest) := by
  rw [tailLetters_cons]
  intro closes
  rcases isSeparator with rfl | rfl | rfl <;> cases closes ' ' rfl

theorem endsPart_tail (separator : String) (isSeparator : IsSeparator separator)
    (parts : List (Rule Unit String)) (rest : List Char) (closes : Closes rest) :
    EndsPart (tailLetters separator parts ++ rest) := by
  cases parts with
  | nil => exact Closes.endsPart rest closes
  | cons part parts =>
      rw [tailLetters_cons]
      intro character isHead
      rcases isSeparator with rfl | rfl | rfl <;> exact .inr (Option.some.inj isHead).symm

/-- The parts are read one after the other, up to the closing parenthesis. -/
theorem tail_read (separator : String) (isSeparator : IsSeparator separator)
    (parts otherParts : List (Rule Unit String)) (partsRead : ∀ part ∈ parts, IsReadAsPart part)
    (otherLegible : ∀ part ∈ otherParts, part.IsLegible) (rest otherRest : List Char)
    (closes : Closes rest) (otherCloses : Closes otherRest)
    (same : tailLetters separator parts ++ rest = tailLetters separator otherParts ++ otherRest) :
    parts = otherParts ∧ rest = otherRest := by
  induction parts generalizing otherParts with
  | nil =>
      cases otherParts with
      | nil => exact ⟨rfl, same⟩
      | cons part others =>
          change rest = _ at same
          exact absurd (same ▸ closes) (not_closes_tail separator isSeparator part others otherRest)
  | cons part others ih =>
      cases otherParts with
      | nil =>
          change _ = otherRest at same
          exact absurd (same ▸ otherCloses) (not_closes_tail separator isSeparator part others rest)
      | cons otherPart otherOthers =>
          rw [tailLetters_cons, tailLetters_cons] at same
          obtain ⟨partRead, othersRead⟩ := List.forall_mem_cons.mp partsRead
          obtain ⟨partLegible, othersLegible⟩ := List.forall_mem_cons.mp otherLegible
          obtain ⟨rfl, sameTail⟩ := partRead otherPart partLegible _ _
            (endsPart_tail separator isSeparator others rest closes)
            (endsPart_tail separator isSeparator otherOthers otherRest otherCloses)
            (List.append_cancel_left same)
          obtain ⟨rfl, sameRest⟩ := ih otherOthers othersRead othersLegible sameTail
          exact ⟨rfl, sameRest⟩

/-! ## Whole rules -/

theorem parts_of_joined (outline : Rule Unit String) (legible : outline.IsLegible)
    (separator : String) (parts : List (Rule Unit String))
    (joined : outline.joined? = some (separator, parts)) :
    outline.parts = parts ∧ ∃ first second others, parts = first :: second :: others := by
  cases outline with
  | leaf label text => cases joined
  | constant label verdict => cases joined
  | negation label operand => cases joined
  | compound label connective children =>
      cases joined
      have several := ((isBranching_compound_iff label connective parts).mp legible.branching).1
      rcases parts with _ | ⟨first, _ | ⟨second, others⟩⟩
      · exact absurd several (by simp)
      · exact absurd several (by simp)
      · exact ⟨rfl, first, second, others, rfl⟩
  | exclusive label left right =>
      cases joined
      exact ⟨rfl, left, right, [], rfl⟩

theorem isReadAlone_of_unjoined (outline : Rule Unit String) (unjoined : outline.joined? = none)
    (asPart : outline.IsReadAsPart) : outline.IsReadAlone := by
  intro other otherLegible rest otherRest closes otherCloses same
  rw [← partLetters_of_unjoined outline unjoined] at same
  cases otherJoined : other.joined? with
  | none =>
      rw [← partLetters_of_unjoined other otherJoined] at same
      exact asPart other otherLegible rest otherRest (Closes.endsPart rest closes)
        (Closes.endsPart otherRest otherCloses) same
  | some joined =>
      -- the first part of the other rule would end before a blank, the whole of this one does not
      obtain ⟨separator, parts⟩ := joined
      obtain ⟨arePart, first, second, others, rfl⟩ :=
        parts_of_joined other otherLegible separator parts otherJoined
      have isSeparator := separator_of_joined other separator _ otherJoined
      have firstLegible := isLegible_part other first otherLegible (by simp [arePart])
      rw [letters_of_joined other separator _ otherJoined, intercalate_partLetters,
        List.append_assoc] at same
      obtain ⟨-, sameRest⟩ := asPart first firstLegible _ _ (Closes.endsPart rest closes)
        (endsPart_tail separator isSeparator _ otherRest otherCloses) same
      exact absurd (sameRest ▸ closes)
        (not_closes_tail separator isSeparator second others otherRest)

theorem isReadAlone_of_joined (outline : Rule Unit String) (legible : outline.IsLegible)
    (separator : String) (parts : List (Rule Unit String))
    (joined : outline.joined? = some (separator, parts))
    (partsRead : ∀ part ∈ parts, IsReadAsPart part) : outline.IsReadAlone := by
  intro other otherLegible rest otherRest closes otherCloses same
  obtain ⟨-, first, second, others, rfl⟩ := parts_of_joined outline legible separator parts joined
  have isSeparator := separator_of_joined outline separator _ joined
  obtain ⟨firstRead, othersRead⟩ := List.forall_mem_cons.mp partsRead
  have ends := endsPart_tail separator isSeparator (second :: others) rest closes
  rw [letters_of_joined outline separator _ joined, intercalate_partLetters,
    List.append_assoc] at same
  cases otherJoined : other.joined? with
  | none =>
      rw [← partLetters_of_unjoined other otherJoined] at same
      obtain ⟨-, sameRest⟩ := firstRead other otherLegible _ _ ends
        (Closes.endsPart otherRest otherCloses) same
      exact absurd (sameRest.symm ▸ otherCloses)
        (not_closes_tail separator isSeparator second others rest)
  | some joinedToo =>
      obtain ⟨otherSeparator, otherParts⟩ := joinedToo
      obtain ⟨arePart, otherFirst, otherSecond, otherOthers, rfl⟩ :=
        parts_of_joined other otherLegible otherSeparator otherParts otherJoined
      have otherIsSeparator := separator_of_joined other otherSeparator _ otherJoined
      have partsLegible : ∀ part ∈ otherFirst :: otherSecond :: otherOthers, part.IsLegible :=
        fun part member => isLegible_part other part otherLegible (arePart ▸ member)
      obtain ⟨firstLegible, othersLegible⟩ := List.forall_mem_cons.mp partsLegible
      rw [letters_of_joined other otherSeparator _ otherJoined, intercalate_partLetters,
        List.append_assoc] at same
      obtain ⟨rfl, sameTail⟩ := firstRead otherFirst firstLegible _ _ ends
        (endsPart_tail otherSeparator otherIsSeparator _ otherRest otherCloses) same
      have sameSeparator : separator = otherSeparator := by
        rw [tailLetters_cons, tailLetters_cons] at sameTail
        exact separator_unique _ _ _ _ isSeparator otherIsSeparator sameTail
      subst sameSeparator
      obtain ⟨sameParts, sameRest⟩ := tail_read separator isSeparator _ _ othersRead othersLegible
        rest otherRest closes otherCloses sameTail
      rw [sameParts] at joined
      exact ⟨joined?_unique outline other separator _ joined otherJoined, sameRest⟩

theorem read_of_joined (outline : Rule Unit String) (legible : outline.IsLegible)
    (separator : String) (parts : List (Rule Unit String))
    (joined : outline.joined? = some (separator, parts))
    (partsRead : ∀ part ∈ parts, IsReadAsPart part) :
    outline.IsReadAsPart ∧ outline.IsReadAlone := by
  have alone := isReadAlone_of_joined outline legible separator parts joined partsRead
  refine ⟨isReadAsPart_of_inner outline legible fun inner member => ?_, alone⟩
  rw [inner?_of_joined outline (by simp [joined])] at member
  exact Option.some.inj member ▸ alone

theorem read_of_unjoined (outline : Rule Unit String) (legible : outline.IsLegible)
    (unjoined : outline.joined? = none)
    (innerRead : ∀ inner ∈ outline.inner?, IsReadAlone inner) :
    outline.IsReadAsPart ∧ outline.IsReadAlone := by
  have asPart := isReadAsPart_of_inner outline legible innerRead
  exact ⟨asPart, isReadAlone_of_unjoined outline unjoined asPart⟩

theorem read_of_legible (outline : Rule Unit String) (legible : outline.IsLegible) :
    outline.IsReadAsPart ∧ outline.IsReadAlone := by
  induction outline using induct with
  | leaf label text => exact read_of_unjoined _ legible rfl fun inner isInner => by cases isInner
  | constant label verdict =>
      exact read_of_unjoined _ legible rfl fun inner isInner => by cases isInner
  | compound label connective children childInduction =>
      refine read_of_joined _ legible _ children rfl fun child member => ?_
      exact (childInduction child member (isLegible_part _ child legible member)).1
  | exclusive label left right leftInduction rightInduction =>
      refine read_of_joined _ legible _ [left, right] rfl ?_
      rw [List.forall_mem_cons, List.forall_mem_singleton]
      exact ⟨(leftInduction (isLegible_part _ left legible (by simp [parts]))).1,
        (rightInduction (isLegible_part _ right legible (by simp [parts]))).1⟩
  | negation label operand operandInduction =>
      refine read_of_unjoined _ legible rfl ?_
      rintro inner ⟨⟩
      exact (operandInduction (isLegible_part _ operand legible (by simp [parts]))).2

/-- If every connective of two rules joins at least two clauses and every leaf is written as a name
with parameters in parentheses, then the rules have the same description if and only if they have
the same outline. -/
theorem same_description_iff_same_outline {Label Criterion : Type}
    (leafText : Criterion → String) (rule other : Rule Label Criterion)
    (branching : rule.isBranching = true) (otherBranching : other.isBranching = true)
    (leafTexts : ∀ leaf ∈ rule.leaves, IsLeafText (leafText leaf.2))
    (otherLeafTexts : ∀ leaf ∈ other.leaves, IsLeafText (leafText leaf.2)) :
    rule.describe leafText = other.describe leafText ↔
      rule.outline leafText = other.outline leafText := by
  constructor
  · intro same
    have legible := isLegible_outline leafText rule branching leafTexts
    have otherLegible := isLegible_outline leafText other otherBranching otherLeafTexts
    have sameLetters : (rule.outline leafText).letters ++ [] =
        (other.outline leafText).letters ++ [] := by
      rw [letters, letters, describe_outline, describe_outline, same]
    exact ((read_of_legible _ legible).2 _ otherLegible [] [] (by simp [Closes])
      (by simp [Closes]) sameLetters).1
  · intro same
    rw [← describe_outline leafText rule, ← describe_outline leafText other, same]

def choiceAndFlag : Rule NodeId Criterion :=
  .compound 4 .conjunction
    [.compound 3 .disjunction [.leaf 0 (.flagged "a"), .leaf 1 (.flagged "b")],
      .leaf 2 (.flagged "c")]

def flagOrPair : Rule NodeId Criterion :=
  .compound 4 .disjunction
    [.leaf 0 (.flagged "a"),
      .compound 3 .conjunction [.leaf 1 (.flagged "b"), .leaf 2 (.flagged "c")]]

theorem regrouped_flags_described_apart :
    choiceAndFlag.isBranching = true ∧ flagOrPair.isBranching = true ∧
      (∀ leaf ∈ choiceAndFlag.leaves ++ flagOrPair.leaves, IsLeafText leaf.2.text) ∧
      choiceAndFlag.describe Criterion.text ≠ flagOrPair.describe Criterion.text := by
  have flags : ∀ leaf ∈ choiceAndFlag.leaves ++ flagOrPair.leaves, IsLeafText leaf.2.text := by
    have plain : ∀ leaf ∈ choiceAndFlag.leaves ++ flagOrPair.leaves,
        ∀ character ∈ leaf.2.parameters.toList, character ≠ '(' ∧ character ≠ ')' := by
      simp [choiceAndFlag, flagOrPair, Criterion.parameters]
    exact fun leaf member => isLeafText_of_criterion leaf.2 (plain leaf member)
  refine ⟨by decide, by decide, flags, ?_⟩
  intro same
  have sameOutline := (same_description_iff_same_outline Criterion.text choiceAndFlag flagOrPair
    (by decide) (by decide) (fun leaf member => flags leaf (List.mem_append_left _ member))
    (fun leaf member => flags leaf (List.mem_append_right _ member))).mp same
  cases sameOutline

end Rule

end Eligibility
