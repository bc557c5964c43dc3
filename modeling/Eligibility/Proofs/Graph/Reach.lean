import Eligibility.Graph.Compose

/-!
# Nodes below a node

What a graph holds at each number after a change, and which nodes are below a node.
-/

set_option autoImplicit false

namespace Eligibility

def Shape.children {Criterion : Type} : Shape Criterion → List NodeId
  | .leaf _ | .constant _ => []
  | .compound _ children => children
  | .exclusive left right => [left, right]
  | .negation operand => [operand]

namespace Graph

variable {Criterion : Type}

/-! ## Lookups -/

theorem node?_of_shape? (graph : Graph Criterion) (id : NodeId) (shape : Shape Criterion)
    (found : graph.shape? id = some shape) :
    ∃ node, graph.node? id = some node ∧ node.shape = shape :=
  Option.map_eq_some_iff.mp found

theorem isSealed_iff (graph : Graph Criterion) (id : NodeId) :
    graph.isSealed id = true ↔ ∃ node, graph.node? id = some node ∧ node.isSealed = true := by
  rw [isSealed, Option.any_eq_true]

theorem node?_isSome_iff (graph : Graph Criterion) (id : NodeId) :
    (∃ node, graph.node? id = some node) ↔ id < graph.nodes.size := by
  rw [node?, ← Option.isSome_iff_exists]
  simp

theorem node?_allocate (graph : Graph Criterion) (shape : Shape Criterion) (id : NodeId) :
    (graph.allocate shape).2.node? id =
      if id = graph.nodes.size then some ⟨shape, false⟩ else graph.node? id := by
  rw [allocate, node?, node?, Array.getElem?_push]

theorem node?_modify (graph : Graph Criterion) (target : NodeId)
    (change : Node Criterion → Node Criterion) (id : NodeId) :
    (graph.modify target change).node? id =
      if id = target then (graph.node? id).map change else graph.node? id := by
  rw [modify, node?, node?, Array.getElem?_modify]
  by_cases same : id = target
  · subst same
    simp
  · rw [if_neg same, if_neg (Ne.symm same)]

theorem size_modify (graph : Graph Criterion) (target : NodeId)
    (change : Node Criterion → Node Criterion) :
    (graph.modify target change).nodes.size = graph.nodes.size :=
  Array.size_modify ..

/-! ## Reachability -/

/-- A node is reached from a node when it is the node itself or reached from one of those that
the node refers to. -/
inductive Reaches (graph : Graph Criterion) : NodeId → NodeId → Prop
  | self (id : NodeId) : Reaches graph id id
  | through (id child target : NodeId) (shape : Shape Criterion)
      (found : graph.shape? id = some shape) (member : child ∈ shape.children)
      (onward : Reaches graph child target) : Reaches graph id target

theorem reaches_child (graph : Graph Criterion) (id child : NodeId) (shape : Shape Criterion)
    (found : graph.shape? id = some shape) (member : child ∈ shape.children) :
    graph.Reaches id child :=
  .through id child child shape found member (.self child)

theorem reaches_trans (graph : Graph Criterion) (root middle target : NodeId)
    (first : graph.Reaches root middle) (second : graph.Reaches middle target) :
    graph.Reaches root target := by
  induction first with
  | self id => exact second
  | through id child middle shape found member onward ih =>
      exact .through id child target shape found member (ih second)

/-- Every node below the root is there, be it below itself or not. -/
def IsComplete (graph : Graph Criterion) (root : NodeId) : Prop :=
  ∀ id, graph.Reaches root id → ∃ shape, graph.shape? id = some shape

/-- A set of nodes that holds, with a node, those that it refers to. -/
def IsClosed (graph : Graph Criterion) (nodes : NodeId → Prop) : Prop :=
  ∀ id, nodes id → ∀ shape, graph.shape? id = some shape → ∀ child ∈ shape.children, nodes child

theorem closed_reaches (graph : Graph Criterion) (nodes : NodeId → Prop)
    (closed : graph.IsClosed nodes) (root target : NodeId) (path : graph.Reaches root target)
    (member : nodes root) : nodes target := by
  induction path with
  | self id => exact member
  | through id child target shape found childMember onward ih =>
      exact ih (closed id member shape found child childMember)

/-- Graphs that agree on a closed set reach the same nodes from it. -/
theorem reaches_of_agree (graph other : Graph Criterion) (nodes : NodeId → Prop)
    (closed : graph.IsClosed nodes)
    (agree : ∀ id, nodes id → other.shape? id = graph.shape? id)
    (root target : NodeId) (member : nodes root) (path : graph.Reaches root target) :
    other.Reaches root target := by
  induction path with
  | self id => exact .self id
  | through id child target shape found childMember onward ih =>
      refine .through id child target shape ?_ childMember
        (ih (closed id member shape found child childMember))
      rw [agree id member, found]

end Graph

end Eligibility
