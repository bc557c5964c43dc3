import Eligibility.Rule.Basic

/-!
# Rule graphs

Rules are built in a graph of numbered nodes that refer to each other, so that a node can be part
of several rules and can still be extended.  A rule is read off the graph by unfolding a node.
Nodes are only ever added; a sealed node keeps its children.
-/

set_option autoImplicit false

namespace Eligibility

abbrev NodeId := Nat

inductive Shape (Criterion : Type) where
  | leaf (criterion : Criterion)
  | constant (verdict : Bool)
  | compound (connective : Connective) (children : List NodeId)
  | exclusive (left right : NodeId)
  | negation (operand : NodeId)

structure Node (Criterion : Type) where
  shape : Shape Criterion
  isSealed : Bool

structure Graph (Criterion : Type) where
  nodes : Array (Node Criterion)

namespace Graph

variable {Criterion : Type}

def empty : Graph Criterion :=
  ⟨#[]⟩

def node? (graph : Graph Criterion) (id : NodeId) : Option (Node Criterion) :=
  graph.nodes[id]?

def shape? (graph : Graph Criterion) (id : NodeId) : Option (Shape Criterion) :=
  (graph.node? id).map (·.shape)

def isSealed (graph : Graph Criterion) (id : NodeId) : Bool :=
  (graph.node? id).any (·.isSealed)

def allocate (graph : Graph Criterion) (shape : Shape Criterion) : NodeId × Graph Criterion :=
  (graph.nodes.size, ⟨graph.nodes.push ⟨shape, false⟩⟩)

def modify (graph : Graph Criterion) (id : NodeId)
    (change : Node Criterion → Node Criterion) : Graph Criterion :=
  ⟨graph.nodes.modify id change⟩

def unfold (graph : Graph Criterion) : Nat → NodeId → Option (Rule NodeId Criterion)
  | 0, _ => none
  | depth + 1, id =>
    match graph.shape? id with
    | none => none
    | some (.leaf criterion) => some (.leaf id criterion)
    | some (.constant verdict) => some (.constant id verdict)
    | some (.compound connective children) =>
      (children.mapM (graph.unfold depth)).map (.compound id connective)
    | some (.exclusive left right) =>
      (graph.unfold depth left).bind fun first =>
        (graph.unfold depth right).map (.exclusive id first)
    | some (.negation operand) => (graph.unfold depth operand).map (.negation id)

/-- The rule below a node.  A rule that does not contain itself is no deeper than the number of
nodes, so only a circular one has no tree. -/
def rule? (graph : Graph Criterion) (id : NodeId) : Option (Rule NodeId Criterion) :=
  graph.unfold graph.nodes.size id

end Graph

end Eligibility
