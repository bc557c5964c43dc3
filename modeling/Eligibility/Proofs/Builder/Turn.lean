import Eligibility.Graph.Builder
import Eligibility.Proofs.Trial

/-!
# Calls in turn

A builder takes a start while it has no root, and every other call while it has one and is not
built.  Any other call is refused, and it is refused before anything is assigned.
-/

set_option autoImplicit false

namespace Eligibility

namespace Builder

variable {Criterion : Type}

def Call.isStart : Call → Bool
  | .start _ => true
  | _ => false

def Call.operation? (root : NodeId) : Call → Option (Graph.Operation Criterion)
  | .join connective rule => some (.join connective root rule)
  | .exclude rule => some (.exclude root rule)
  | .negate => some (.negate root)
  | .start _ | .build => none

/-- What a call that is not refused does to its builder and to the graph. -/
inductive Performs (graph : Graph Criterion) : Builder → Call → Builder → Graph Criterion → Prop
  | started (rule : NodeId) : Performs graph ⟨none, false⟩ (.start rule) ⟨some rule, false⟩ graph
  | extended (root : NodeId) (call : Call) (operation : Graph.Operation Criterion)
      (isExtension : call.operation? root = some operation) :
      Performs graph ⟨some root, false⟩ call ⟨some (graph.perform operation).1, false⟩
        (graph.perform operation).2
  | built (root : NodeId) :
      Performs graph ⟨some root, false⟩ .build ⟨some root, true⟩ (graph.sealRule root)

theorem performs_of_perform (builder changed : Builder) (graph later : Graph Criterion)
    (call : Call) (performed : builder.perform graph call = .ok (changed, later)) :
    Performs graph builder call changed later := by
  rcases builder with ⟨_ | root, _ | _⟩
  · cases call with
    | start rule =>
        cases performed
        exact .started rule
    | _ => cases performed
  · cases call <;> cases performed
  · cases call with
    | start rule => cases performed
    | join connective rule =>
        cases performed
        exact .extended root _ (.join connective root rule) rfl
    | exclude rule =>
        cases performed
        exact .extended root _ (.exclude root rule) rfl
    | negate =>
        cases performed
        exact .extended root _ (.negate root) rfl
    | build =>
        cases performed
        exact .built root
  · cases call <;> cases performed

def IsInTurn (builder : Builder) (call : Call) : Prop :=
  builder.isBuilt = false ∧ builder.root.isSome = !call.isStart

theorem isInTurn_of_performs (graph later : Graph Criterion) (builder changed : Builder)
    (call : Call) (performs : Performs graph builder call changed later) :
    builder.IsInTurn call := by
  cases performs with
  | started rule => exact ⟨rfl, rfl⟩
  | extended root _ operation isExtension => cases call <;> cases isExtension <;> exact ⟨rfl, rfl⟩
  | built root => exact ⟨rfl, rfl⟩

theorem perform_in_turn (builder : Builder) (graph : Graph Criterion) (call : Call)
    (inTurn : builder.IsInTurn call) : ∃ made, builder.perform graph call = .ok made := by
  rcases builder with ⟨_ | root, _ | _⟩
  · cases call with
    | start rule => exact ⟨_, rfl⟩
    | _ => simp [IsInTurn, Call.isStart] at inTurn
  · simp [IsInTurn] at inTurn
  · cases call with
    | start rule => simp [IsInTurn, Call.isStart] at inTurn
    | _ => exact ⟨_, rfl⟩
  · simp [IsInTurn] at inTurn

theorem perform_out_of_turn (builder : Builder) (graph : Graph Criterion) (call : Call)
    (outOfTurn : ¬builder.IsInTurn call) :
    ∃ cause, builder.perform graph call = .error (.composition cause) := by
  rcases builder with ⟨_ | root, _ | _⟩
  · cases call with
    | start rule => exact absurd ⟨rfl, rfl⟩ outOfTurn
    | _ => exact ⟨.notStarted, rfl⟩
  · cases call <;> exact ⟨.alreadyBuilt, rfl⟩
  · cases call with
    | start rule => exact ⟨.alreadyStarted, rfl⟩
    | _ => exact absurd ⟨rfl, rfl⟩ outOfTurn
  · cases call <;> exact ⟨.alreadyBuilt, rfl⟩

/-! ## One assignment after the other -/

/-- A trial on the fields of a builder and on the graph.  What it assigned stays when it fails. -/
abbrev Assigning (Criterion Kind : Type) := Trial (Builder × Graph Criterion) Kind

def checkOpen : Assigning Criterion Unit := do
  if (← get).1.isBuilt then
    throw (.composition .alreadyBuilt)

def findRoot : Assigning Criterion NodeId := do
  checkOpen
  match (← get).1.root with
  | none => throw (.composition .notStarted)
  | some root => return root

def assignRoot (root : NodeId) : Assigning Criterion Unit :=
  modify fun site => ({ site.1 with root := some root }, site.2)

def compose (operation : Graph.Operation Criterion) : Assigning Criterion NodeId := do
  let site ← get
  let made := site.2.perform operation
  set (site.1, made.2)
  return made.1

/-- Carries out a call, with each field assigned on its own. -/
def carryOut : Call → Assigning Criterion Unit
  | .start rule => do
    checkOpen
    if (← get).1.root.isSome then
      throw (.composition .alreadyStarted)
    assignRoot rule
  | .join connective rule => do
    let root ← findRoot
    assignRoot (← compose (.join connective root rule))
  | .exclude rule => do
    let root ← findRoot
    assignRoot (← compose (.exclude root rule))
  | .negate => do
    let root ← findRoot
    assignRoot (← compose (.negate root))
  | .build => do
    let root ← findRoot
    modify fun site => ({ site.1 with isBuilt := true }, site.2)
    let _ ← compose (.sealRule root)

/-- Every check comes before the first assignment, so a call is performed as a whole or not at
all. -/
theorem carryOut_run (builder : Builder) (graph : Graph Criterion) (call : Call) :
    (carryOut call).run.run (builder, graph) =
      match builder.perform graph call with
      | .ok made => (.ok (), made)
      | .error fault => (.error fault, builder, graph) := by
  rcases builder with ⟨_ | root, _ | _⟩ <;> cases call <;> rfl

end Builder

end Eligibility
