import Eligibility.Proofs.Builder.Turn
import Eligibility.Proofs.Graph.Compose
import Eligibility.Proofs.Rule.Combine

/-!
# Extensions by a builder

A call that extends a builder is the same kind of thing for nodes, rules and verdicts.  The rule
that comes of it is made of the rules that the root and the operand had before, even where the root
itself is extended: the node that changes is the root of the new rule, so it is below none of its
parts.
-/

set_option autoImplicit false

namespace Eligibility

variable {Source Target Label Criterion State : Type}

namespace Builder

/-- What a call between the start and the end adds, with operands of any kind. -/
inductive Extension (Operand : Type) where
  | join (connective : Connective) (operand : Operand)
  | exclude (operand : Operand)
  | negate

namespace Extension

def operands : Extension Source → List Source
  | .join _ operand | .exclude operand => [operand]
  | .negate => []

def call : Extension NodeId → Call
  | .join connective operand => .join connective operand
  | .exclude operand => .exclude operand
  | .negate => .negate

def operation (root : NodeId) : Extension NodeId → Graph.Operation Criterion
  | .join connective operand => .join connective root operand
  | .exclude operand => .exclude root operand
  | .negate => .negate root

def grow (label : Label) (rule : Rule Label Criterion) :
    Extension (Rule Label Criterion) → Rule Label Criterion
  | .join connective operand => Rule.joined label connective rule operand
  | .exclude operand => .exclusive label rule operand
  | .negate => .negation label rule

def apply (verdict : Bool) : Extension Bool → Bool
  | .join connective operand => connective.combine verdict operand
  | .exclude operand => verdict != operand
  | .negate => !verdict

inductive Matches (relation : Source → Target → Prop) : Extension Source → Extension Target → Prop
  | join (connective : Connective) (source : Source) (target : Target)
      (related : relation source target) :
      Matches relation (.join connective source) (.join connective target)
  | exclude (source : Source) (target : Target) (related : relation source target) :
      Matches relation (.exclude source) (.exclude target)
  | negate : Matches relation .negate .negate

theorem exists_of_matches (relation : Source → Target → Prop) (extension : Extension Source)
    (target : Extension Target) (same : extension.Matches relation target) (source : Source)
    (member : source ∈ extension.operands) : ∃ result, relation source result := by
  cases same with
  | join connective operand result related =>
      obtain rfl := List.mem_singleton.mp member
      exact ⟨result, related⟩
  | exclude operand result related =>
      obtain rfl := List.mem_singleton.mp member
      exact ⟨result, related⟩
  | negate => cases member

theorem matches_comp {Middle : Type} (before : Source → Middle → Prop)
    (after : Source → Target → Prop) (between : Middle → Target → Prop)
    (extension : Extension Source) (middle : Extension Middle) (target : Extension Target)
    (first : extension.Matches before middle) (second : extension.Matches after target)
    (onward : ∀ source, ∀ operand ∈ middle.operands, ∀ result, before source operand →
      after source result → between operand result) :
    middle.Matches between target := by
  cases first with
  | join connective source operand isBefore =>
      cases second with
      | join _ _ result isAfter =>
          exact .join connective operand result
            (onward source operand (by simp [operands]) result isBefore isAfter)
  | exclude source operand isBefore =>
      cases second with
      | exclude _ result isAfter =>
          exact .exclude operand result
            (onward source operand (by simp [operands]) result isBefore isAfter)
  | negate =>
      cases second with
      | negate => exact .negate

/-! ## Verdicts -/

theorem leaves_grow (label : Label) (rule : Rule Label Criterion)
    (extension : Extension (Rule Label Criterion)) :
    (extension.grow label rule).leaves =
      rule.leaves ++ extension.operands.flatMap Rule.leaves := by
  cases extension with
  | join connective operand => simp [grow, operands, Rule.leaves_joined]
  | exclude operand => simp [grow, operands]
  | negate => simp [grow, operands]

theorem isJudged_grow (answer : Label → Criterion → Trial State Bool) (label : Label)
    (rule : Rule Label Criterion) (verdict : Bool) (judged : rule.IsJudged answer verdict)
    (extension : Extension (Rule Label Criterion)) (verdicts : Extension Bool)
    (operandsJudged : extension.Matches (Rule.IsJudged answer) verdicts) :
    (extension.grow label rule).IsJudged answer (verdicts.apply verdict) := by
  cases operandsJudged with
  | join connective operand operandVerdict operandJudged =>
      exact Rule.isJudged_joined answer label connective rule operand _ _ judged operandJudged
  | exclude operand operandVerdict operandJudged =>
      exact Rule.isJudged_exclusive answer label rule operand _ _ judged operandJudged
  | negate => exact Rule.isJudged_negation answer label rule verdict judged

theorem steady_of_grow (answer : Label → Criterion → Trial State Bool) (label : Label)
    (rule : Rule Label Criterion) (extension : Extension (Rule Label Criterion))
    (steady : (extension.grow label rule).IsSteadyUnder answer) :
    rule.IsSteadyUnder answer ∧
      ∀ operand ∈ extension.operands, operand.IsSteadyUnder answer := by
  have leaves := extension.leaves_grow label rule
  refine ⟨fun leaf inside => steady leaf ?_, fun operand member leaf inside => steady leaf ?_⟩
  · rw [leaves]
    exact List.mem_append_left _ inside
  · rw [leaves]
    exact List.mem_append_right _ (List.mem_flatMap.mpr ⟨operand, member, inside⟩)

end Extension

theorem perform_extension (graph : Graph Criterion) (root : NodeId)
    (extension : Extension NodeId) :
    perform ⟨some root, false⟩ graph extension.call =
      .ok (⟨some (graph.perform (extension.operation root)).1, false⟩,
        (graph.perform (extension.operation root)).2) := by
  cases extension <;> rfl

end Builder

namespace Graph

open Builder (Extension)

/-! ## The graph before an extension -/

/-- A new node makes a rule of rules that were there before. -/
theorem parts_of_allocate (graph later : Graph Criterion) (shape : Shape Criterion) (made : NodeId)
    (allocated : graph.allocate shape = (made, later)) (result : Rule NodeId Criterion)
    (held : later.Holds result) (isMade : result.label = made) :
    result.shape = shape ∧ ∀ part ∈ result.parts, graph.Holds part := by
  obtain ⟨here, elsewhere, -⟩ := allocate_changes graph shape
  rw [allocated] at here elsewhere
  have found := shape?_of_holds later result held
  rw [isMade, shape?_of_node? later made shape false here, Option.some.injEq] at found
  refine ⟨found.symm, fun part member => ?_⟩
  have untouched := root_not_below later result part held member
  rw [isMade] at untouched
  exact (holds_iff_of_changed graph later made elsewhere part untouched).mp
    (holds_of_part later result part held member)

/-- What an extension makes is made of the rules of the root and of the operand before it. -/
theorem grown_of_extension (graph later : Graph Criterion) (root made : NodeId)
    (extension : Extension NodeId)
    (performed : graph.perform (extension.operation root) = (made, later))
    (result : Rule NodeId Criterion) (held : later.Holds result) (isMade : result.label = made) :
    ∃ (first : Rule NodeId Criterion) (operands : Extension (Rule NodeId Criterion)),
      first.label = root ∧ graph.Holds first ∧
      extension.Matches (fun id operand => operand.label = id ∧ graph.Holds operand) operands ∧
      result = operands.grow made first := by
  cases extension with
  | join connective operand =>
      obtain ⟨first, second, isFirst, firstHeld, isSecond, secondHeld, same, -⟩ :=
        joined_of_join graph connective root operand made later performed result held isMade
      exact ⟨first, .join connective second, isFirst, firstHeld,
        .join connective operand second ⟨isSecond, secondHeld⟩, same⟩
  | exclude operand =>
      obtain ⟨sameShape, partsHeld⟩ :=
        parts_of_allocate graph later (.exclusive root operand) made performed result held isMade
      cases result with
      | exclusive label first second =>
          obtain ⟨isFirst, isSecond⟩ := Shape.exclusive.inj sameShape
          have firstHeld : graph.Holds first := partsHeld first (by simp [Rule.parts])
          have secondHeld : graph.Holds second := partsHeld second (by simp [Rule.parts])
          cases isMade
          exact ⟨first, .exclude second, isFirst, firstHeld,
            .exclude operand second ⟨isSecond, secondHeld⟩, rfl⟩
      | _ => cases sameShape
  | negate =>
      obtain ⟨sameShape, partsHeld⟩ :=
        parts_of_allocate graph later (.negation root) made performed result held isMade
      cases result with
      | negation label first =>
          have firstHeld : graph.Holds first := partsHeld first (by simp [Rule.parts])
          cases isMade
          exact ⟨first, .negate, Shape.negation.inj sameShape, firstHeld, .negate, rfl⟩
      | _ => cases sameShape

/-! ## Complete rules -/

theorem reaches_of_clause (graph : Graph Criterion) (connective : Connective) (id child : NodeId)
    (member : child ∈ graph.clauses connective id) : graph.Reaches id child := by
  rw [clauses_eq] at member
  cases grouped : graph.group? connective id with
  | some children =>
      rw [grouped] at member
      exact graph.reaches_child id child _ ((group?_eq_some_iff ..).mp grouped) member
  | none =>
      rw [grouped] at member
      obtain rfl := List.mem_singleton.mp member
      exact .self child

theorem reaches_of_joinedChild (graph : Graph Criterion) (connective : Connective)
    (receiver other child : NodeId)
    (member : child ∈ graph.joinedChildren connective receiver other) :
    graph.Reaches receiver child ∨ graph.Reaches other child := by
  unfold joinedChildren at member
  split at member
  next children grouped =>
    rcases List.mem_append.mp member with inReceiver | inOther
    · exact .inl (graph.reaches_child receiver child _ ((group?_eq_some_iff ..).mp grouped)
        inReceiver)
    · exact .inr (graph.reaches_of_clause connective other child inOther)
  next =>
    rcases List.mem_pair.mp member with rfl | rfl
    · exact .inl (.self child)
    · exact .inr (.self child)

/-- The node that an extension makes or changes refers to what was below the root or the operand. -/
theorem extension_changes (graph later : Graph Criterion) (root made : NodeId)
    (extension : Extension NodeId)
    (performed : graph.perform (extension.operation root) = (made, later)) :
    ∃ shape, later.node? made = some ⟨shape, false⟩ ∧
      (∀ id, id ≠ made → later.node? id = graph.node? id) ∧
      ∀ child ∈ shape.children, ∃ source ∈ root :: extension.operands,
        graph.Reaches source child := by
  cases extension with
  | join connective operand =>
      obtain ⟨here, elsewhere, -⟩ :=
        join_changes graph connective root operand made later performed
      refine ⟨_, here, elsewhere, fun child member => ?_⟩
      rcases graph.reaches_of_joinedChild connective root operand child member with
        belowRoot | belowOperand
      · exact ⟨root, by simp, belowRoot⟩
      · exact ⟨operand, by simp [Extension.operands], belowOperand⟩
  | exclude operand =>
      obtain ⟨here, elsewhere, -⟩ := allocate_changes graph (.exclusive root operand)
      obtain ⟨rfl, rfl⟩ := Prod.mk.inj performed
      refine ⟨_, here, elsewhere, fun child member => ⟨child, ?_, .self child⟩⟩
      simpa [Shape.children, Extension.operands] using member
  | negate =>
      obtain ⟨here, elsewhere, -⟩ := allocate_changes graph (.negation root)
      obtain ⟨rfl, rfl⟩ := Prod.mk.inj performed
      refine ⟨_, here, elsewhere, fun child member => ⟨child, ?_, .self child⟩⟩
      simpa [Shape.children, Extension.operands] using member

theorem isComplete_of_extension (graph later : Graph Criterion) (root made : NodeId)
    (extension : Extension NodeId)
    (performed : graph.perform (extension.operation root) = (made, later))
    (complete : ∀ source ∈ root :: extension.operands, graph.IsComplete source) :
    later.IsComplete made := by
  obtain ⟨shape, here, elsewhere, children⟩ :=
    extension_changes graph later root made extension performed
  have sameShape : ∀ id, id ≠ made → later.shape? id = graph.shape? id := by
    intro id differs
    rw [shape?, shape?, elsewhere id differs]
  have closed : later.IsClosed fun id =>
      id = made ∨ ∃ source ∈ root :: extension.operands, graph.Reaches source id := by
    intro id inside found foundHere child member
    refine .inr ?_
    by_cases isMade : id = made
    · subst isMade
      rw [shape?_of_node? later id shape false here, Option.some.injEq] at foundHere
      subst foundHere
      exact children child member
    · obtain ⟨source, isSource, path⟩ := inside.resolve_left isMade
      rw [sameShape id isMade] at foundHere
      exact ⟨source, isSource, graph.reaches_trans source id child path
        (graph.reaches_child id child found foundHere member)⟩
  -- a node below the new rule is its root or was below one of the rules that it is made of
  intro id path
  by_cases isMade : id = made
  · subst isMade
    exact ⟨shape, shape?_of_node? later id shape false here⟩
  · obtain ⟨source, isSource, earlierPath⟩ :=
      (closed_reaches later _ closed made id path (.inl rfl)).resolve_left isMade
    rw [sameShape id isMade]
    exact complete source isSource id earlierPath

end Graph

end Eligibility
