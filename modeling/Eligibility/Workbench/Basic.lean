import Eligibility.Graph.Answer
import Eligibility.Graph.Builder
import Eligibility.Workbench.Expression

/-!
# The workbench

A workbench holds a graph, names for its nodes, builders, a clock and the history of the scripts.
Expressions are evaluated on it from left to right.
-/

set_option autoImplicit false

namespace Eligibility

structure Workbench where
  graph : Graph Criterion
  /-- The names of nodes, in the order in which they were first given. -/
  registers : List (String × NodeId)
  builders : List (String × Builder)
  clock : Instant
  history : CallHistory

/-- Sets the value of a name; a new name goes to the end. -/
def assign {Kind : Type} (name : String) (value : Kind) :
    List (String × Kind) → List (String × Kind)
  | [] => [(name, value)]
  | (key, present) :: rest =>
    if key = name then (key, value) :: rest else (key, present) :: assign name value rest

namespace Workbench

def atTime (clock : Instant) : Workbench where
  graph := .empty
  registers := []
  builders := []
  clock := clock
  history := []

def perform (operation : Graph.Operation Criterion) : Trial Workbench NodeId := do
  let bench ← get
  let made := bench.graph.perform operation
  set { bench with graph := made.2 }
  return made.1

def unknownName (name : String) : Fault :=
  .composition (.described ("Unknown name " ++ name))

def lookUp {Kind : Type} (choose : Workbench → Option Kind) (missing : Fault) :
    Trial Workbench Kind := do
  match choose (← get) with
  | some value => return value
  | none => throw missing

def findRegister (name : String) : Trial Workbench NodeId :=
  lookUp (·.registers.lookup name) (unknownName name)

def findRule (node : NodeId) : Trial Workbench (Rule NodeId Criterion) :=
  lookUp (·.graph.rule? node) (.composition .circular)

def findBuilder (name : String) : Trial Workbench Builder :=
  lookUp (·.builders.lookup name) (unknownName name)

def makeCriterion (kind : CriterionKind) (arguments : List Argument) :
    Trial Workbench Criterion := do
  let clock := (← get).clock
  ExceptT.mk (pure do
    let operands ← arguments.mapM Argument.resolve
    kind.make clock operands)

mutual

def build : Expression → Trial Workbench NodeId
  | .register name => findRegister name
  | .criterion kind arguments => do
    let criterion ← makeCriterion kind arguments
    perform (.create (.leaf criterion))
  | .scripted script => perform (.create (.leaf (.scripted script)))
  | .constant verdict => perform (.create (.constant verdict))
  | .compound connective rules => do
    let children ← buildAll rules
    perform (.create (.compound connective children))
  | .exclude left right => do
    let first ← build left
    let second ← build right
    perform (.exclude first second)
  | .negate operand => do
    let node ← build operand
    perform (.negate node)
  | .join connective receiver other => do
    let first ← build receiver
    let second ← build other
    perform (.join connective first second)
  | .joinAll connective rules => do
    let nodes ← buildAll rules
    perform (.joinAll connective nodes)

def buildAll : List Expression → Trial Workbench (List NodeId)
  | [] => pure []
  | expression :: rest => do
    let node ← build expression
    let others ← buildAll rest
    return node :: others

end

end Workbench

end Eligibility
