import Eligibility.Graph.Compose

/-!
# Builders

A builder makes one rule step by step.  It is started once, then extended, and finished once;
finishing seals the rule.  A call out of turn is a fault and changes nothing.
-/

set_option autoImplicit false

namespace Eligibility

structure Builder where
  root : Option NodeId
  isBuilt : Bool
  deriving DecidableEq

namespace Builder

variable {Criterion : Type}

def empty : Builder :=
  ⟨none, false⟩

inductive Call where
  | start (rule : NodeId)
  | join (connective : Connective) (rule : NodeId)
  | exclude (rule : NodeId)
  | negate
  | build

def openRoot (builder : Builder) : Except Fault NodeId :=
  if builder.isBuilt then
    .error (.composition .alreadyBuilt)
  else
    match builder.root with
    | none => .error (.composition .notStarted)
    | some root => .ok root

def start (builder : Builder) (rule : NodeId) : Except Fault Builder :=
  if builder.isBuilt then
    .error (.composition .alreadyBuilt)
  else if builder.root.isSome then
    .error (.composition .alreadyStarted)
  else
    .ok { builder with root := some rule }

def extend (builder : Builder) (graph : Graph Criterion)
    (operation : NodeId → Graph.Operation Criterion) :
    Except Fault (Builder × Graph Criterion) := do
  let root ← builder.openRoot
  let made := graph.perform (operation root)
  return ({ builder with root := some made.1 }, made.2)

def build (builder : Builder) (graph : Graph Criterion) :
    Except Fault (Builder × Graph Criterion) := do
  let root ← builder.openRoot
  return ({ builder with isBuilt := true }, graph.sealRule root)

def perform (builder : Builder) (graph : Graph Criterion) :
    Call → Except Fault (Builder × Graph Criterion)
  | .start rule => do return (← builder.start rule, graph)
  | .join connective rule => builder.extend graph (.join connective · rule)
  | .exclude rule => builder.extend graph (.exclude · rule)
  | .negate => builder.extend graph .negate
  | .build => builder.build graph

end Builder

end Eligibility
