import Eligibility.Proofs.Builder.Turn
import Eligibility.Proofs.Graph.Compose
import Eligibility.Proofs.Graph.Sealing

/-!
# Graphs only grow

A node keeps its kind, its criterion and its operands for good.  A connective may get further
children after those it has, as long as it is open, and a seal stays.  Which connective gets them
is decided by the receiver of a composition, and by nothing else.
-/

set_option autoImplicit false

namespace Eligibility

variable {Criterion : Type}

/-- What may become of a node: it stays and may be sealed, or it is an open connective that gets
children at the end, where that is allowed. -/
inductive Node.Becomes (mayGrow : Connective → Prop) : Node Criterion → Node Criterion → Prop
  | kept (shape : Shape Criterion) (before after : Bool) (stays : before = true → after = true) :
      Becomes mayGrow ⟨shape, before⟩ ⟨shape, after⟩
  | grown (connective : Connective) (children added : List NodeId) (after : Bool)
      (allowed : mayGrow connective) :
      Becomes mayGrow ⟨.compound connective children, false⟩
        ⟨.compound connective (children ++ added), after⟩

namespace Node

theorem becomes_self (mayGrow : Connective → Prop) (node : Node Criterion) :
    node.Becomes mayGrow node :=
  .kept node.shape node.isSealed node.isSealed id

theorem becomes_trans (mayGrow further : Connective → Prop) (first second third : Node Criterion)
    (earlier : first.Becomes mayGrow second) (later : second.Becomes further third)
    (narrow : ∀ connective, further connective → mayGrow connective) :
    first.Becomes mayGrow third := by
  cases earlier with
  | kept shape before between stays =>
      cases later with
      | kept _ _ after remains =>
          exact .kept shape before after fun isSealed => remains (stays isSealed)
      | grown connective children added after allowed =>
          have isOpen : before = false := by simpa using stays
          rw [isOpen]
          exact .grown connective children added after (narrow connective allowed)
  | grown connective children added between allowed =>
      cases later with
      | kept _ _ after remains => exact .grown connective children added after allowed
      | grown _ _ others after _ =>
          rw [List.append_assoc]
          exact .grown connective children (added ++ others) after allowed

end Node

namespace Graph

/-- Every node of a graph is in the later one, and connectives have further children only where
they may. -/
def Appends (mayGrow : Connective → NodeId → Prop) (graph later : Graph Criterion) : Prop :=
  ∀ id node, graph.node? id = some node →
    ∃ found, later.node? id = some found ∧ node.Becomes (mayGrow · id) found

theorem appends_self (mayGrow : Connective → NodeId → Prop) (graph : Graph Criterion) :
    graph.Appends mayGrow graph :=
  fun _ node found => ⟨node, found, node.becomes_self _⟩

/-- What grows later has to be allowed only if it was there from the start. -/
theorem appends_trans (mayGrow further : Connective → NodeId → Prop)
    (graph between later : Graph Criterion) (first : graph.Appends mayGrow between)
    (second : between.Appends further later)
    (narrow : ∀ connective id node, graph.node? id = some node → further connective id →
      mayGrow connective id) :
    graph.Appends mayGrow later := by
  intro id node found
  obtain ⟨middle, middleFound, earlier⟩ := first id node found
  obtain ⟨last, lastFound, onward⟩ := second id middle middleFound
  exact ⟨last, lastFound, Node.becomes_trans _ _ node middle last earlier onward
    fun connective => narrow connective id node found⟩

theorem appends_of_same (mayGrow : Connective → NodeId → Prop) (graph later : Graph Criterion)
    (same : ∀ id node, graph.node? id = some node → later.node? id = some node) :
    graph.Appends mayGrow later :=
  fun id node found => ⟨node, same id node found, node.becomes_self _⟩

/-! ## One change -/

theorem node?_of_allocate (graph : Graph Criterion) (shape : Shape Criterion) (id : NodeId)
    (node : Node Criterion) (found : graph.node? id = some node) :
    (graph.allocate shape).2.node? id = some node := by
  have inside := (node?_isSome_iff graph id).mp ⟨node, found⟩
  rw [node?_allocate, if_neg (Nat.ne_of_lt inside), found]

theorem node?_of_place (graph : Graph Criterion) (remainder : Rule.Remainder NodeId Criterion)
    (id : NodeId) (node : Node Criterion) (found : graph.node? id = some node) :
    (graph.place remainder).2.node? id = some node := by
  cases remainder with
  | existing rule => exact found
  | narrowed clauses => exact node?_of_allocate graph _ id node found

theorem allocate_appends (mayGrow : Connective → NodeId → Prop) (graph : Graph Criterion)
    (shape : Shape Criterion) : graph.Appends mayGrow (graph.allocate shape).2 :=
  appends_of_same mayGrow graph _ (node?_of_allocate graph shape)

theorem extend_appends (mayGrow : Connective → NodeId → Prop) (graph : Graph Criterion)
    (connective : Connective) (target : NodeId) (children added : List NodeId)
    (isOpen : graph.node? target = some ⟨.compound connective children, false⟩)
    (allowed : mayGrow connective target) :
    graph.Appends mayGrow (graph.replaceChildren connective target (children ++ added)) := by
  intro id node found
  rw [replaceChildren, node?_modify]
  by_cases isTarget : id = target
  · subst isTarget
    obtain rfl := Option.some.inj (isOpen.symm.trans found)
    rw [if_pos rfl, found]
    exact ⟨_, rfl, .grown connective children added false allowed⟩
  · rw [if_neg isTarget]
    exact ⟨node, found, node.becomes_self _⟩

theorem sealRule_appends (mayGrow : Connective → NodeId → Prop) (graph : Graph Criterion)
    (root : NodeId) : graph.Appends mayGrow (graph.sealRule root) := by
  unfold sealRule
  cases graph.rule? root with
  | none => exact appends_self mayGrow graph
  | some rule =>
      intro id node found
      rw [node?_sealNodes, found]
      split
      · exact ⟨_, rfl, .kept node.shape node.isSealed true fun _ => rfl⟩
      · exact ⟨node, rfl, node.becomes_self _⟩

theorem evolves_appends (graph later : Graph Criterion) (evolves : graph.Evolves later) :
    graph.Appends (fun _ _ => True) later := by
  induction evolves with
  | refl => exact appends_self _ graph
  | tail earlier change ih =>
      refine appends_trans _ (fun _ _ => True) graph _ _ ih ?_ fun _ _ _ _ _ => trivial
      cases change with
      | allocate shape => exact allocate_appends _ _ shape
      | extend connective id children added isOpen =>
          exact extend_appends _ _ connective id children added isOpen trivial
      | sealRule id => exact sealRule_appends _ _ id

/-! ## Compositions -/

/-- A composition can extend its receiver only. -/
theorem join_appends (graph : Graph Criterion) (connective : Connective)
    (receiver other : NodeId) :
    graph.Appends (fun kind id => some (connective, receiver) = some (kind, id))
      (graph.join connective receiver other).2 := by
  rcases join_cases graph connective receiver other with ⟨⟨children, isOpen⟩, extended⟩ | ⟨-, makes⟩
  · have grouped : graph.group? connective receiver = some children :=
      (group?_eq_some_iff ..).mpr (shape?_of_node? graph receiver _ false isOpen)
    rw [extended]
    simp only [joinedChildren, grouped]
    exact extend_appends _ graph connective receiver children _ isOpen rfl
  · rw [makes]
    exact allocate_appends _ graph _

/-- The node that takes up one operand after the other is the first one or a new one. -/
theorem fold_join_appends (connective : Connective) (first : NodeId) (rest : List NodeId)
    (graph between : Graph Criterion) (reached : NodeId)
    (appends : graph.Appends (fun kind id => some (connective, first) = some (kind, id)) between)
    (isFirstOrNew : reached = first ∨ graph.node? reached = none) :
    graph.Appends (fun kind id => some (connective, first) = some (kind, id))
      (rest.foldl (fun earlier next => earlier.2.join connective earlier.1 next)
        (reached, between)).2 := by
  induction rest generalizing reached between with
  | nil => exact appends
  | cons next rest ih =>
      rcases composed : between.join connective reached next with ⟨made, later⟩
      obtain ⟨-, -, receiver⟩ := join_changes between connective reached next made later composed
      rw [List.foldl_cons, composed]
      refine ih later made ?_ ?_
      · have joined := join_appends between connective reached next
        rw [composed] at joined
        refine appends_trans _ _ graph between later appends joined ?_
        intro kind id node found same
        cases same
        rcases isFirstOrNew with rfl | isNew
        · rfl
        · rw [isNew] at found
          cases found
      · rcases receiver with ⟨rfl, -⟩ | ⟨-, fresh⟩
        · exact isFirstOrNew
        · refine .inr ?_
          cases found : graph.node? made with
          | none => rfl
          | some node =>
              obtain ⟨present, presentFound, -⟩ := appends made node found
              rw [fresh] at presentFound
              cases presentFound

/-- The node that an operation calls with a connective, and that it extends if it is open. -/
def Operation.receiver? : Operation Criterion → Option (Connective × NodeId)
  | .join connective receiver _ => some (connective, receiver)
  | .joinAll connective (first :: _ :: _) => some (connective, first)
  | _ => none

theorem perform_appends (graph : Graph Criterion) (operation : Operation Criterion) :
    graph.Appends (fun connective id => operation.receiver? = some (connective, id))
      (graph.perform operation).2 := by
  cases operation with
  | create shape => exact allocate_appends _ graph shape
  | join connective receiver other => exact join_appends graph connective receiver other
  | joinAll connective ids =>
      match ids with
      | [] => exact allocate_appends _ graph _
      | [first] => exact appends_self _ graph
      | first :: second :: rest =>
          exact fold_join_appends connective first (second :: rest) graph graph first
            (appends_self _ graph) (.inl rfl)
  | exclude left right => exact allocate_appends _ graph _
  | negate operand => exact allocate_appends _ graph _
  | sealRule id => exact sealRule_appends _ graph id

/-! ## Rules that stay -/

/-- A node that may not grow, or that is not open, keeps its kind and its children. -/
theorem shape?_of_appends (mayGrow : Connective → NodeId → Prop) (graph later : Graph Criterion)
    (appends : graph.Appends mayGrow later) (id : NodeId) (shape : Shape Criterion)
    (found : graph.shape? id = some shape)
    (fixed : ∀ connective, mayGrow connective id → ¬graph.IsOpen connective id) :
    later.shape? id = some shape := by
  obtain ⟨node, nodeFound, rfl⟩ := node?_of_shape? graph id shape found
  obtain ⟨after, afterFound, becomes⟩ := appends id node nodeFound
  rw [shape?, afterFound]
  cases becomes with
  | kept shape before after stays => rfl
  | grown connective children added after allowed =>
      exact absurd ⟨children, nodeFound⟩ (fixed connective allowed)

section

variable (mayGrow : Connective → NodeId → Prop) (graph later : Graph Criterion)
  (appends : graph.Appends mayGrow later) (root : NodeId) (complete : graph.IsComplete root)
  (apart : ∀ connective id, mayGrow connective id → graph.IsOpen connective id →
    ¬graph.Reaches root id)

include appends complete apart

theorem shape?_below_of_appends (id : NodeId) (path : graph.Reaches root id) :
    later.shape? id = graph.shape? id := by
  obtain ⟨shape, found⟩ := complete id path
  rw [found]
  exact shape?_of_appends mayGrow graph later appends id shape found
    fun connective allowed isOpen => apart connective id allowed isOpen path

theorem reaches_of_appends (id : NodeId) (path : later.Reaches root id) :
    graph.Reaches root id := by
  refine closed_reaches later (graph.Reaches root) ?_ root id path (.self root)
  intro other below shape found child member
  rw [shape?_below_of_appends mayGrow graph later appends root complete apart other below] at found
  exact graph.reaches_trans root other child below
    (graph.reaches_child other child shape found member)

theorem isComplete_of_appends : later.IsComplete root := by
  intro id path
  have earlier := reaches_of_appends mayGrow graph later appends root complete apart id path
  rw [shape?_below_of_appends mayGrow graph later appends root complete apart id earlier]
  exact complete id earlier

/-- The rule that is there later is the one that was there before. -/
theorem holds_of_appends (rule : Rule NodeId Criterion) (held : later.Holds rule)
    (isRoot : rule.label = root) : graph.Holds rule := by
  refine holds_of_agree later graph rule held fun id inside => ?_
  have path := (reaches_iff_of_holds later rule held id).mpr inside
  rw [isRoot] at path
  have earlier := reaches_of_appends mayGrow graph later appends root complete apart id path
  exact (shape?_below_of_appends mayGrow graph later appends root complete apart id earlier).symm

omit complete in
/-- A rule stays as it is when no open node below its root may grow. -/
theorem rule?_of_appends (rule : Rule NodeId Criterion)
    (unfolded : graph.rule? root = some rule) : later.rule? root = some rule := by
  have complete := isComplete_of_rule? graph root rule unfolded
  obtain ⟨rfl, held⟩ := (rule?_eq_some_iff graph root rule).mp unfolded
  refine (rule?_eq_some_iff later rule.label rule).mpr ⟨rfl, ?_⟩
  refine holds_of_agree graph later rule held fun id inside => ?_
  have path := (reaches_iff_of_holds graph rule held id).mpr inside
  exact shape?_below_of_appends mayGrow graph later appends rule.label complete apart id path

end

end Graph

namespace Builder

def receiver? (builder : Builder) : Call → Option (Connective × NodeId)
  | .join connective _ => builder.openRoot.toOption.map (connective, ·)
  | _ => none

theorem perform_appends (builder changed : Builder) (graph later : Graph Criterion) (call : Call)
    (performed : builder.perform graph call = .ok (changed, later)) :
    graph.Appends (fun connective id => builder.receiver? call = some (connective, id)) later := by
  cases performs_of_perform builder changed graph later call performed with
  | started rule => exact Graph.appends_self _ graph
  | extended root _ operation isExtension =>
      have sameReceiver : operation.receiver? = receiver? ⟨some root, false⟩ call := by
        cases call <;> cases isExtension <;> rfl
      rw [← sameReceiver]
      exact graph.perform_appends operation
  | built root => exact graph.sealRule_appends _ root

end Builder

end Eligibility
