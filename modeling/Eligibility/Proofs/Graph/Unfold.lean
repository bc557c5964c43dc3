import Eligibility.Proofs.Basic
import Eligibility.Proofs.Graph.Reach
import Eligibility.Proofs.Rule.Tree

/-!
# Unfolding

Graphs that agree on the nodes below a node unfold it to the same rule.  The labels of that rule
are nodes that can be unfolded themselves, and they refer to labels of the rule only.
-/

set_option autoImplicit false

namespace Eligibility

namespace Graph

variable {Criterion : Type}

/-- A rule is unfolded alike, and to any greater depth, from graphs that agree on a closed set. -/
theorem unfold_of_agree (graph other : Graph Criterion) (nodes : NodeId → Prop)
    (closed : graph.IsClosed nodes)
    (agree : ∀ id, nodes id → other.shape? id = graph.shape? id)
    (depth further : Nat) (deeper : depth ≤ further) (id : NodeId) (member : nodes id)
    (rule : Rule NodeId Criterion) (unfolded : graph.unfold depth id = some rule) :
    other.unfold further id = some rule := by
  induction depth generalizing further id rule with
  | zero => cases unfolded
  | succ depth ih =>
      cases further with
      | zero => omega
      | succ further =>
          cases found : graph.shape? id with
          | none =>
              rw [unfold, found] at unfolded
              cases unfolded
          | some shape =>
              have childUnfolded : ∀ child ∈ shape.children, ∀ below,
                  graph.unfold depth child = some below →
                  other.unfold further child = some below :=
                fun child inside =>
                  ih further (Nat.le_of_succ_le_succ deeper) child
                    (closed id member shape found child inside)
              rw [unfold, found] at unfolded
              rw [unfold, agree id member, found]
              cases shape with
              | leaf criterion => exact unfolded
              | constant verdict => exact unfolded
              | compound connective children =>
                  obtain ⟨below, mapped, rfl⟩ := Option.map_eq_some_iff.mp unfolded
                  have otherMapped := mapM_eq_some_of_agree _ (other.unfold further) children
                    childUnfolded below mapped
                  exact Option.map_eq_some_iff.mpr ⟨below, otherMapped, rfl⟩
              | exclusive left right =>
                  obtain ⟨first, leftRule, later⟩ := Option.bind_eq_some_iff.mp unfolded
                  obtain ⟨second, rightRule, rfl⟩ := Option.map_eq_some_iff.mp later
                  have otherLeft := childUnfolded left (by simp [Shape.children]) first leftRule
                  have otherRight :=
                    childUnfolded right (by simp [Shape.children]) second rightRule
                  simp only [otherLeft, otherRight, Option.bind_some, Option.map_some]
              | negation operand =>
                  obtain ⟨below, operandRule, rfl⟩ := Option.map_eq_some_iff.mp unfolded
                  have otherRule :=
                    childUnfolded operand (by simp [Shape.children]) below operandRule
                  simp only [otherRule, Option.map_some]

/-! ## The labels of a rule -/

/-- The parts of an unfolded rule are unfolded from the nodes that its root refers to. -/
theorem parts_of_unfold (graph : Graph Criterion) (depth : Nat) (id : NodeId)
    (rule : Rule NodeId Criterion) (unfolded : graph.unfold (depth + 1) id = some rule) :
    rule.label = id ∧ ∃ shape, graph.shape? id = some shape ∧
      (∀ part ∈ rule.parts, ∃ child ∈ shape.children, graph.unfold depth child = some part) ∧
      ∀ child ∈ shape.children, ∃ part ∈ rule.parts, graph.unfold depth child = some part := by
  cases found : graph.shape? id with
  | none =>
      rw [unfold, found] at unfolded
      cases unfolded
  | some shape =>
      rw [unfold, found] at unfolded
      cases shape with
      | leaf criterion =>
          cases unfolded
          exact ⟨rfl, _, rfl, by simp [Rule.parts], by simp [Shape.children]⟩
      | constant verdict =>
          cases unfolded
          exact ⟨rfl, _, rfl, by simp [Rule.parts], by simp [Shape.children]⟩
      | compound connective children =>
          obtain ⟨below, mapped, rfl⟩ := Option.map_eq_some_iff.mp unfolded
          exact ⟨rfl, _, rfl, mapM_eq_some_mem _ children below mapped⟩
      | exclusive left right =>
          obtain ⟨first, leftRule, later⟩ := Option.bind_eq_some_iff.mp unfolded
          obtain ⟨second, rightRule, rfl⟩ := Option.map_eq_some_iff.mp later
          exact ⟨rfl, _, rfl, by simp [Rule.parts, Shape.children, leftRule, rightRule],
            by simp [Rule.parts, Shape.children, leftRule, rightRule]⟩
      | negation operand =>
          obtain ⟨below, operandRule, rfl⟩ := Option.map_eq_some_iff.mp unfolded
          exact ⟨rfl, _, rfl, by simp [Rule.parts, Shape.children, operandRule],
            by simp [Rule.parts, Shape.children, operandRule]⟩

theorem label_of_unfold (graph : Graph Criterion) (depth : Nat) (id : NodeId)
    (rule : Rule NodeId Criterion) (unfolded : graph.unfold depth id = some rule) :
    rule.label = id := by
  cases depth with
  | zero => cases unfolded
  | succ depth => exact (parts_of_unfold graph depth id rule unfolded).1

theorem shape?_of_rule? (graph : Graph Criterion) (id : NodeId) (rule : Rule NodeId Criterion)
    (unfolded : graph.rule? id = some rule) : ∃ shape, graph.shape? id = some shape := by
  rw [rule?] at unfolded
  cases size : graph.nodes.size with
  | zero =>
      rw [size] at unfolded
      cases unfolded
  | succ depth =>
      rw [size] at unfolded
      obtain ⟨-, shape, found, -⟩ := parts_of_unfold graph depth id rule unfolded
      exact ⟨shape, found⟩

theorem unfold_deeper (graph : Graph Criterion) (depth further : Nat) (deeper : depth ≤ further)
    (id : NodeId) (rule : Rule NodeId Criterion) (unfolded : graph.unfold depth id = some rule) :
    graph.unfold further id = some rule :=
  unfold_of_agree graph graph (fun _ => True) (fun _ _ _ _ _ _ => trivial) (fun _ _ => rfl)
    depth further deeper id trivial rule unfolded

/-- Every label of an unfolded rule is a node that can be unfolded, and refers to labels only. -/
theorem labels_of_unfold (graph : Graph Criterion) (depth : Nat) (id : NodeId)
    (rule : Rule NodeId Criterion) (unfolded : graph.unfold depth id = some rule)
    (label : NodeId) (member : label ∈ rule.labels) :
    (∃ below, graph.unfold depth label = some below) ∧
    ∀ shape, graph.shape? label = some shape → ∀ child ∈ shape.children, child ∈ rule.labels := by
  induction depth generalizing id rule with
  | zero => cases unfolded
  | succ depth ih =>
      obtain ⟨sameRoot, rootShape, rootFound, fromChildren, toParts⟩ :=
        parts_of_unfold graph depth id rule unfolded
      rw [Rule.labels_eq_cons, List.mem_cons, sameRoot] at member
      rcases member with rfl | belowRoot
      · refine ⟨⟨rule, unfolded⟩, ?_⟩
        intro shape found child inside
        rw [found] at rootFound
        cases rootFound
        obtain ⟨part, partMember, partUnfolded⟩ := toParts child inside
        rw [← label_of_unfold graph depth child part partUnfolded]
        exact Rule.labels_of_part rule part partMember _ part.label_mem_labels
      · obtain ⟨part, partMember, inside⟩ := List.mem_flatMap.mp belowRoot
        obtain ⟨child, -, partUnfolded⟩ := fromChildren part partMember
        obtain ⟨⟨below, labelUnfolded⟩, refersToLabels⟩ := ih child part partUnfolded inside
        refine ⟨⟨below, unfold_deeper graph depth _ (Nat.le_succ depth) label below labelUnfolded⟩,
          ?_⟩
        intro shape found grandchild grandchildMember
        exact Rule.labels_of_part rule part partMember grandchild
          (refersToLabels shape found grandchild grandchildMember)

end Graph

end Eligibility
