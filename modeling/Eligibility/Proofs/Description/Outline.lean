import Eligibility.Criterion.Basic
import Eligibility.Proofs.Rule.Tree
import Mathlib.Data.List.Basic

/-!
# Outlines of rules

An outline is what a rule shows of itself in its description: connectives, grouping, order,
constants and the texts of the leaves.  Two things can blur it, a connective with fewer than two
clauses and a leaf that is not written as a name with parameters in parentheses.
-/

set_option autoImplicit false

namespace Eligibility

namespace Rule

section Outlines
variable {Label Criterion Result : Type}

/-! ## Outlines -/

/-- Keeps connectives, grouping, order and constants, and the texts of the leaves. -/
def outliner (leafText : Criterion → String) : Visitor Label Criterion (Rule Unit String) where
  leaf _ criterion := .leaf () (leafText criterion)
  constant verdict := .constant () verdict
  compound connective parts := .compound () connective parts
  exclusive left right := .exclusive () left right
  negation operand := .negation () operand

def outline (leafText : Criterion → String) (rule : Rule Label Criterion) : Rule Unit String :=
  rule.accept (outliner leafText)

@[simp]
theorem outline_compound (leafText : Criterion → String) (label : Label)
    (connective : Connective) (children : List (Rule Label Criterion)) :
    outline leafText (.compound label connective children) =
      .compound () connective (children.map (outline leafText)) := by
  rw [outline, accept, acceptAll_eq_map]
  rfl

def outlineVisitor (leafText : Criterion → String) (visitor : Visitor Unit String Result) :
    Visitor Label Criterion Result where
  leaf _ criterion := visitor.leaf () (leafText criterion)
  constant verdict := visitor.constant verdict
  compound connective parts := visitor.compound connective parts
  exclusive left right := visitor.exclusive left right
  negation operand := visitor.negation operand

theorem accept_outline (leafText : Criterion → String) (visitor : Visitor Unit String Result)
    (rule : Rule Label Criterion) :
    (rule.outline leafText).accept visitor = rule.accept (outlineVisitor leafText visitor) := by
  induction rule using induct with
  | leaf label criterion => rfl
  | constant label verdict => rfl
  | compound label connective children childInduction =>
      rw [outline_compound, accept, accept, acceptAll_eq_map, acceptAll_eq_map, List.map_map]
      exact congrArg (visitor.compound connective) (List.map_congr_left childInduction)
  | exclusive label left right leftInduction rightInduction =>
      rw [accept, ← leftInduction, ← rightInduction]
      rfl
  | negation label operand operandInduction =>
      rw [accept, ← operandInduction]
      rfl

theorem describe_outline (leafText : Criterion → String) (rule : Rule Label Criterion) :
    (rule.outline leafText).describe id = rule.describe leafText :=
  congrArg Rendered.text (accept_outline leafText (describer id) rule)

theorem leaves_outline (leafText : Criterion → String) (rule : Rule Label Criterion) :
    (rule.outline leafText).leaves = rule.leaves.map fun leaf => ((), leafText leaf.2) := by
  induction rule using induct with
  | leaf label criterion => rfl
  | constant label verdict => rfl
  | compound label connective children childInduction =>
      rw [outline_compound, leaves_compound, leaves_compound, List.flatMap_map, List.map_flatMap]
      exact List.flatMap_congr childInduction
  | exclusive label left right leftInduction rightInduction =>
      rw [leaves_exclusive, List.map_append, ← leftInduction, ← rightInduction]
      rfl
  | negation label operand operandInduction => exact operandInduction

/-! ## Rules with several clauses everywhere -/

def branchChecker : Visitor Label Criterion Bool where
  leaf _ _ := true
  constant _ := true
  compound _ parts := decide (2 ≤ parts.length) && parts.all id
  exclusive left right := left && right
  negation operand := operand

/-- Whether every connective of a rule joins at least two clauses. -/
def isBranching (rule : Rule Label Criterion) : Bool :=
  rule.accept branchChecker

theorem isBranching_compound_iff (label : Label) (connective : Connective)
    (children : List (Rule Label Criterion)) :
    isBranching (.compound label connective children) = true ↔
      2 ≤ children.length ∧ ∀ child ∈ children, child.isBranching = true := by
  rw [isBranching, accept, acceptAll_eq_map]
  simp [branchChecker, isBranching]

theorem isBranching_outline (leafText : Criterion → String) (rule : Rule Label Criterion) :
    (rule.outline leafText).isBranching = rule.isBranching :=
  accept_outline leafText branchChecker rule

/-! ## Texts of leaves -/

def isDelimiter (character : Char) : Bool :=
  character = ' ' || character = '(' || character = ')'

/-- An identifier: not empty, and without blanks and parentheses. -/
def IsName (name : String) : Prop :=
  name ≠ "" ∧ ∀ character ∈ name.toList, isDelimiter character = false

instance (name : String) : Decidable (IsName name) :=
  decidable_of_iff (name ≠ "" ∧ name.toList.all (!isDelimiter ·) = true) (by simp [IsName])

/-- The text of a leaf is a name, other than the one that negations are written with, and
parameters without parentheses in parentheses. -/
def IsLeafText (text : String) : Prop :=
  ∃ name parameters : String, text = name ++ "(" ++ parameters ++ ")" ∧
    IsName name ∧ name ≠ "Not" ∧
    ∀ character ∈ parameters.toList, character ≠ '(' ∧ character ≠ ')'

/-- Every connective joins at least two clauses, and the texts of the leaves are as they must be. -/
structure IsLegible (outline : Rule Unit String) : Prop where
  branching : outline.isBranching = true
  leafTexts : ∀ leaf ∈ outline.leaves, IsLeafText leaf.2

theorem isLegible_outline (leafText : Criterion → String) (rule : Rule Label Criterion)
    (branching : rule.isBranching = true)
    (leafTexts : ∀ leaf ∈ rule.leaves, IsLeafText (leafText leaf.2)) :
    (rule.outline leafText).IsLegible := by
  refine ⟨isBranching_outline leafText rule ▸ branching, ?_⟩
  rw [leaves_outline]
  exact List.forall_mem_map.mpr leafTexts

theorem isBranching_part (outline part : Rule Label Criterion)
    (branching : outline.isBranching = true) (member : part ∈ outline.parts) :
    part.isBranching = true := by
  cases outline with
  | leaf label criterion => cases member
  | constant label verdict => cases member
  | compound label connective children =>
      exact ((isBranching_compound_iff label connective children).mp branching).2 part member
  | exclusive label left right =>
      have both : (left.isBranching && right.isBranching) = true := branching
      rw [Bool.and_eq_true] at both
      rcases List.mem_cons.mp member with rfl | rightMember
      · exact both.1
      · exact List.mem_singleton.mp rightMember ▸ both.2
  | negation label operand => exact List.mem_singleton.mp member ▸ branching

theorem isLegible_part (outline part : Rule Unit String) (legible : outline.IsLegible)
    (member : part ∈ outline.parts) : part.IsLegible :=
  ⟨isBranching_part outline part legible.branching member,
    fun leaf inside => legible.leafTexts leaf (leaves_of_part outline part member leaf inside)⟩

/-! ## Letters -/

def letters (outline : Rule Unit String) : List Char :=
  (outline.describe id).toList

def partLetters (outline : Rule Unit String) : List Char :=
  (outline.accept (describer id)).grouped.toList

/-- The separator and the parts of a rule that is written as a list of parts. -/
def joined? : Rule Label Criterion → Option (String × List (Rule Label Criterion))
  | .compound _ connective children => some (connective.separator, children)
  | .exclusive _ left right => some (" Xor ", [left, right])
  | .leaf .. | .constant .. | .negation .. => none

/-- The rule whose description stands in parentheses when a rule is a part. -/
def inner? : Rule Label Criterion → Option (Rule Label Criterion)
  | .negation _ operand => some operand
  | .compound label connective children => some (.compound label connective children)
  | .exclusive label left right => some (.exclusive label left right)
  | .leaf .. | .constant .. => none

theorem inner?_of_joined (outline : Rule Unit String) (joined : outline.joined? ≠ none) :
    outline.inner? = some outline := by
  cases outline with
  | leaf label text => exact absurd rfl joined
  | constant label verdict => exact absurd rfl joined
  | negation label operand => exact absurd rfl joined
  | compound label connective children => rfl
  | exclusive label left right => rfl

theorem letters_of_joined (outline : Rule Unit String) (separator : String)
    (parts : List (Rule Unit String)) (joined : outline.joined? = some (separator, parts)) :
    outline.letters = separator.toList.intercalate (parts.map partLetters) := by
  cases outline with
  | leaf label text => cases joined
  | constant label verdict => cases joined
  | negation label operand => cases joined
  | compound label connective children =>
      cases joined
      rw [letters, describe, accept, acceptAll_eq_map]
      change (String.intercalate connective.separator (_ : List String)).toList = _
      rw [String.toList_intercalate, List.map_map, List.map_map]
      rfl
  | exclusive label left right =>
      cases joined
      simp [letters, describe, accept, describer, partLetters]

theorem partLetters_of_joined (outline : Rule Unit String)
    (branching : outline.isBranching = true) (joined : outline.joined? ≠ none) :
    outline.partLetters = '(' :: outline.letters ++ [')'] := by
  have compound : (outline.accept (describer id)).compound = true := by
    cases outline with
    | leaf label text => exact absurd rfl joined
    | constant label verdict => exact absurd rfl joined
    | negation label operand => exact absurd rfl joined
    | compound label connective children =>
        have several := ((isBranching_compound_iff label connective children).mp branching).1
        rw [accept, acceptAll_eq_map]
        simpa [describer] using Nat.lt_of_succ_le several
    | exclusive label left right => rfl
  rw [partLetters, Rendered.grouped, if_pos compound]
  simp [letters, describe]

theorem partLetters_of_unjoined (outline : Rule Unit String) (unjoined : outline.joined? = none) :
    outline.partLetters = outline.letters := by
  cases outline with
  | leaf label text => rfl
  | constant label verdict => rfl
  | negation label operand => rfl
  | compound label connective children => cases unjoined
  | exclusive label left right => cases unjoined

end Outlines

/-! ## The criteria -/

theorem fieldMatch_className (rule : FieldMatch) :
    IsName rule.className ∧ rule.className ≠ "Not" := by
  cases rule with
  | ofField field expected => simp only [FieldMatch.className]; decide
  | ofDepartment name => simp only [FieldMatch.className]; decide
  | ofRole name => simp only [FieldMatch.className]; decide
  | ofKnownDepartment department => cases department <;> decide
  | ofKnownRole role => cases role; decide

theorem criterion_className (criterion : Criterion) :
    IsName criterion.className ∧ criterion.className ≠ "Not" := by
  cases criterion with
  | field rule => exact fieldMatch_className rule
  | salary rule =>
      obtain ⟨bound, scale⟩ := rule
      cases bound <;> simp only [Criterion.className, SalaryRule.className] <;> decide
  | tenure rule =>
      obtain ⟨bound, reference⟩ := rule
      cases bound <;> simp only [Criterion.className, TenureRule.className] <;> decide
  | flagged key => simp only [Criterion.className]; decide
  | unfinished => decide
  | scripted script => simp only [Criterion.className]; decide

/-- Criteria are written as leaves must be, unless there are parentheses among their parameters. -/
theorem isLeafText_of_criterion (criterion : Criterion)
    (plain : ∀ character ∈ criterion.parameters.toList, character ≠ '(' ∧ character ≠ ')') :
    IsLeafText criterion.text :=
  ⟨criterion.className, criterion.parameters, rfl, (criterion_className criterion).1,
    (criterion_className criterion).2, plain⟩

end Rule

end Eligibility
