import Eligibility.Rule.Visitor

/-!
# Rules as trees

Induction over a rule and its clauses, the labels and the leaves of a rule, and the rules in which
every connective joins at least one clause.
-/

set_option autoImplicit false

namespace Eligibility

namespace Rule

variable {Label Criterion Result : Type}

/-- Induction over a rule, with the hypothesis for every clause of a connective. -/
@[elab_as_elim]
theorem induct {motive : Rule Label Criterion → Prop}
    (leaf : ∀ label criterion, motive (.leaf label criterion))
    (constant : ∀ label verdict, motive (.constant label verdict))
    (compound : ∀ label connective children, (∀ child ∈ children, motive child) →
      motive (.compound label connective children))
    (exclusive : ∀ label left right, motive left → motive right →
      motive (.exclusive label left right))
    (negation : ∀ label operand, motive operand → motive (.negation label operand))
    (rule : Rule Label Criterion) : motive rule :=
  @Rule.rec Label Criterion motive (fun children => ∀ child ∈ children, motive child)
    leaf constant compound exclusive negation (by simp)
    (fun _ _ first others => List.forall_mem_cons.mpr ⟨first, others⟩) rule

theorem acceptAll_eq_map (visitor : Visitor Label Criterion Result)
    (children : List (Rule Label Criterion)) :
    acceptAll visitor children = children.map (accept visitor) := by
  induction children with
  | nil => rfl
  | cons child rest ih => simp only [acceptAll, ih, List.map_cons]

/-! ## Labels -/

def parts : Rule Label Criterion → List (Rule Label Criterion)
  | .leaf .. | .constant .. => []
  | .compound _ _ children => children
  | .exclusive _ left right => [left, right]
  | .negation _ operand => [operand]

theorem childLabels_eq_flatMap (children : List (Rule Label Criterion)) :
    childLabels children = children.flatMap labels := by
  induction children with
  | nil => rfl
  | cons child rest ih => rw [childLabels, ih, List.flatMap_cons]

theorem labels_eq_cons (rule : Rule Label Criterion) :
    rule.labels = rule.label :: rule.parts.flatMap labels := by
  cases rule with
  | compound label connective children =>
      rw [labels, childLabels_eq_flatMap]
      rfl
  | leaf label criterion => rfl
  | constant label verdict => rfl
  | exclusive label left right => simp [labels, parts, Rule.label]
  | negation label operand => simp [labels, parts, Rule.label]

theorem label_mem_labels (rule : Rule Label Criterion) : rule.label ∈ rule.labels := by
  rw [labels_eq_cons]
  exact List.mem_cons_self ..

theorem labels_of_part (rule part : Rule Label Criterion) (member : part ∈ rule.parts) :
    ∀ label ∈ part.labels, label ∈ rule.labels := by
  intro label inside
  rw [labels_eq_cons]
  exact List.mem_cons_of_mem _ (List.mem_flatMap.mpr ⟨part, member, inside⟩)

/-! ## Leaves -/

def leafLister : Visitor Label Criterion (List (Label × Criterion)) where
  leaf label criterion := [(label, criterion)]
  constant _ := []
  compound _ parts := parts.flatten
  exclusive left right := left ++ right
  negation operand := operand

def leaves (rule : Rule Label Criterion) : List (Label × Criterion) :=
  rule.accept leafLister

@[simp]
theorem leaves_leaf (label : Label) (criterion : Criterion) :
    leaves (.leaf label criterion) = [(label, criterion)] :=
  rfl

@[simp]
theorem leaves_constant (label : Label) (verdict : Bool) :
    leaves (.constant label verdict : Rule Label Criterion) = [] :=
  rfl

@[simp]
theorem leaves_exclusive (label : Label) (left right : Rule Label Criterion) :
    leaves (.exclusive label left right) = left.leaves ++ right.leaves :=
  rfl

@[simp]
theorem leaves_negation (label : Label) (operand : Rule Label Criterion) :
    leaves (.negation label operand) = operand.leaves :=
  rfl

@[simp]
theorem leaves_compound (label : Label) (connective : Connective)
    (children : List (Rule Label Criterion)) :
    leaves (.compound label connective children) = children.flatMap leaves := by
  rw [leaves, accept, acceptAll_eq_map, List.flatMap_def]
  rfl

theorem leaves_of_part (rule part : Rule Label Criterion) (member : part ∈ rule.parts) :
    ∀ leaf ∈ part.leaves, leaf ∈ rule.leaves := by
  intro leaf inside
  cases rule with
  | leaf label criterion => cases member
  | constant label verdict => cases member
  | compound label connective children =>
      rw [leaves_compound]
      exact List.mem_flatMap.mpr ⟨part, member, inside⟩
  | exclusive label left right =>
      rw [leaves_exclusive, List.mem_append]
      rcases List.mem_cons.mp member with rfl | rightMember
      · exact .inl inside
      · rw [List.mem_singleton.mp rightMember] at inside
        exact .inr inside
  | negation label operand =>
      rw [List.mem_singleton.mp member] at inside
      exact inside

/-! ## Rules without an empty connective -/

def fillChecker : Visitor Label Criterion Bool where
  leaf _ _ := true
  constant _ := true
  compound _ parts := !parts.isEmpty && parts.all id
  exclusive left right := left && right
  negation operand := operand

/-- Whether every connective of a rule joins at least one clause. -/
def isFilled (rule : Rule Label Criterion) : Bool :=
  rule.accept fillChecker

@[simp]
theorem isFilled_exclusive (label : Label) (left right : Rule Label Criterion) :
    isFilled (.exclusive label left right) = (left.isFilled && right.isFilled) :=
  rfl

@[simp]
theorem isFilled_negation (label : Label) (operand : Rule Label Criterion) :
    isFilled (.negation label operand) = operand.isFilled :=
  rfl

@[simp]
theorem isFilled_compound_iff (label : Label) (connective : Connective)
    (children : List (Rule Label Criterion)) :
    isFilled (.compound label connective children) = true ↔
      children ≠ [] ∧ ∀ child ∈ children, child.isFilled = true := by
  rw [isFilled, accept, acceptAll_eq_map]
  simp [fillChecker, isFilled]

end Rule

end Eligibility
