import Eligibility.Graph.Basic

/-!
# Composition

Joining a compound node with another rule extends it in place while it is open, and makes a new
node once it is sealed.  Every other composition makes a new node.
-/

set_option autoImplicit false

namespace Eligibility

namespace Graph

variable {Criterion : Type}

/-- The clauses that a node contributes to a connective: its own children when it has the same
connective, and itself otherwise. -/
def clauses (graph : Graph Criterion) (connective : Connective) (id : NodeId) : List NodeId :=
  match graph.shape? id with
  | some (.compound other children) => if other = connective then children else [id]
  | _ => [id]

def replaceChildren (graph : Graph Criterion) (connective : Connective) (id : NodeId)
    (children : List NodeId) : Graph Criterion :=
  graph.modify id fun node => { node with shape := .compound connective children }

def join (graph : Graph Criterion) (connective : Connective) (receiver other : NodeId) :
    NodeId × Graph Criterion :=
  match graph.node? receiver with
  | some ⟨.compound kind children, isSealed⟩ =>
    if kind = connective then
      let extended := children ++ graph.clauses connective other
      if isSealed then
        graph.allocate (.compound connective extended)
      else
        (receiver, graph.replaceChildren connective receiver extended)
    else
      graph.allocate (.compound connective [receiver, other])
  | _ => graph.allocate (.compound connective [receiver, other])

/-- Joins nodes from left to right; no nodes give the neutral constant. -/
def joinAll (graph : Graph Criterion) (connective : Connective) :
    List NodeId → NodeId × Graph Criterion
  | [] => graph.allocate (.constant connective.neutral)
  | first :: rest =>
    rest.foldl (fun reached next => reached.2.join connective reached.1 next) (first, graph)

def sealNodes (graph : Graph Criterion) (ids : List NodeId) : Graph Criterion :=
  ids.foldl (fun reached id => reached.modify id fun node => { node with isSealed := true }) graph

def sealRule (graph : Graph Criterion) (id : NodeId) : Graph Criterion :=
  match graph.rule? id with
  | some rule => graph.sealNodes rule.labels
  | none => graph

inductive Operation (Criterion : Type) where
  | create (shape : Shape Criterion)
  | join (connective : Connective) (receiver other : NodeId)
  | joinAll (connective : Connective) (ids : List NodeId)
  | exclude (left right : NodeId)
  | negate (operand : NodeId)
  | sealRule (id : NodeId)

def perform (graph : Graph Criterion) : Operation Criterion → NodeId × Graph Criterion
  | .create shape => graph.allocate shape
  | .join connective receiver other => graph.join connective receiver other
  | .joinAll connective ids => graph.joinAll connective ids
  | .exclude left right => graph.allocate (.exclusive left right)
  | .negate operand => graph.allocate (.negation operand)
  | .sealRule id => (id, graph.sealRule id)

/-- The node of a remainder; a narrowed one is new. -/
def place (graph : Graph Criterion) (remainder : Rule.Remainder NodeId Criterion) :
    NodeId × Graph Criterion :=
  match remainder with
  | .existing rule => (rule.label, graph)
  | .narrowed clauses => graph.allocate (.compound .conjunction (clauses.map Rule.label))

end Graph

end Eligibility
