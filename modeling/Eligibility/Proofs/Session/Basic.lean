import Eligibility.Evaluation
import Eligibility.Proofs.Graph.Sealing
import Eligibility.Proofs.Trial

/-!
# Sessions

A session is any sequence of compositions, calls of builders and questions to rules, on any nodes.
Nodes are named by number, so whatever an action gives, a new conjunction in a remainder included,
can be composed further.
-/

set_option autoImplicit false

namespace Eligibility

/-- A graph, the builders over it, and the state that criteria answer in. -/
structure Session (Criterion State : Type) where
  graph : Graph Criterion
  builders : List Builder
  state : State

namespace Session

inductive Action (Subject Criterion : Type) where
  | operate (operation : Graph.Operation Criterion)
  | openBuilder
  | callBuilder (position : Nat) (call : Builder.Call)
  | judge (node : NodeId) (subject : Subject)
  | remainder (node : NodeId) (subject : Subject)
  | evaluate (node : NodeId) (subject : Subject) (policy : Policy)
  | evaluateAll (node : NodeId) (subjects : List Subject) (policy : Policy)

variable {Subject Criterion State : Type}

def start (state : State) : Session Criterion State :=
  ⟨.empty, [], state⟩

/-- The session after an answer, with the remainders in the graph unless there was a fault. -/
def proceed (session : Session Criterion State) (state : State)
    (found : Except Fault (List (Rule.Remainder NodeId Criterion))) : Session Criterion State :=
  match found with
  | .ok remainders =>
    { session with
      graph := remainders.foldl (fun reached remainder => (reached.place remainder).2) session.graph
      state := state }
  | .error _ => { session with state := state }

def ask (session : Session Criterion State) (node : NodeId)
    (question : Rule NodeId Criterion →
      StateM State (Except Fault (List (Rule.Remainder NodeId Criterion)))) :
    Session Criterion State :=
  match session.graph.rule? node with
  | none => session
  | some rule =>
    let asked := (question rule).run session.state
    session.proceed asked.2 asked.1

/-- Performs a call on a builder.  One that fails changes nothing. -/
def callBuilder (session : Session Criterion State) (position : Nat) (call : Builder.Call) :
    Session Criterion State :=
  match session.builders[position]? with
  | none => session
  | some builder =>
    match builder.perform session.graph call with
    | .ok (changed, graph) =>
      { session with graph := graph, builders := session.builders.set position changed }
    | .error _ => session

def act (leafText : Criterion → String) (answer : Subject → NodeId → Criterion → Trial State Bool)
    (session : Session Criterion State) : Action Subject Criterion → Session Criterion State
  | .operate operation => { session with graph := (session.graph.perform operation).2 }
  | .openBuilder => { session with builders := session.builders ++ [.empty] }
  | .callBuilder position call => session.callBuilder position call
  | .judge node subject => session.ask node fun rule => do
    let verdict ← (rule.judge (answer subject)).run
    return verdict.map fun _ => []
  | .remainder node subject => session.ask node fun rule => do
    let left ← (rule.remainder (answer subject)).run
    return left.map Option.toList
  | .evaluate node subject policy => session.ask node fun rule => do
    let logged ← rule.evaluate leafText (answer subject) policy
    return logged.result.map fun report => report.remainder.toList
  | .evaluateAll node subjects policy => session.ask node fun rule => do
    let logged ← rule.evaluateAll leafText answer policy subjects
    return logged.result.map fun reports => reports.filterMap (·.remainder)

def run (leafText : Criterion → String) (answer : Subject → NodeId → Criterion → Trial State Bool)
    (session : Session Criterion State) (actions : List (Action Subject Criterion)) :
    Session Criterion State :=
  actions.foldl (act leafText answer) session

theorem run_concat (leafText : Criterion → String)
    (answer : Subject → NodeId → Criterion → Trial State Bool) (session : Session Criterion State)
    (earlier : List (Action Subject Criterion)) (action : Action Subject Criterion) :
    session.run leafText answer (earlier ++ [action]) =
      (session.run leafText answer earlier).act leafText answer action :=
  List.foldl_concat ..

/-! ## Changes of the graph -/

theorem proceed_evolves (session : Session Criterion State) (state : State)
    (found : Except Fault (List (Rule.Remainder NodeId Criterion))) :
    session.graph.Evolves (session.proceed state found).graph := by
  cases found with
  | error fault => exact .refl
  | ok remainders =>
      have placed : ∀ graph : Graph Criterion, graph.Evolves
          (remainders.foldl (fun reached remainder => (reached.place remainder).2) graph) := by
        induction remainders with
        | nil => exact fun graph => .refl
        | cons remainder rest ih =>
            exact fun graph => (graph.place_evolves remainder).trans (ih _)
      exact placed session.graph

theorem ask_evolves (session : Session Criterion State) (node : NodeId)
    (question : Rule NodeId Criterion →
      StateM State (Except Fault (List (Rule.Remainder NodeId Criterion)))) :
    session.graph.Evolves (session.ask node question).graph := by
  rw [ask]
  split
  · exact .refl
  · exact proceed_evolves session _ _

theorem callBuilder_evolves (session : Session Criterion State) (position : Nat)
    (call : Builder.Call) : session.graph.Evolves (session.callBuilder position call).graph := by
  rw [callBuilder]
  split
  · exact .refl
  next builder found =>
    split
    next changed graph performed =>
      exact builder.perform_evolves session.graph call changed graph performed
    next => exact .refl

/-- The step: whatever an action does to the graph is a sequence of changes. -/
theorem act_evolves (leafText : Criterion → String)
    (answer : Subject → NodeId → Criterion → Trial State Bool)
    (session : Session Criterion State) (action : Action Subject Criterion) :
    session.graph.Evolves (session.act leafText answer action).graph := by
  cases action with
  | operate operation => exact session.graph.perform_evolves operation
  | openBuilder => exact .refl
  | callBuilder position call => exact session.callBuilder_evolves position call
  | judge node subject => exact session.ask_evolves node _
  | remainder node subject => exact session.ask_evolves node _
  | evaluate node subject policy => exact session.ask_evolves node _
  | evaluateAll node subjects policy => exact session.ask_evolves node _

theorem run_evolves (leafText : Criterion → String)
    (answer : Subject → NodeId → Criterion → Trial State Bool)
    (session : Session Criterion State) (actions : List (Action Subject Criterion)) :
    session.graph.Evolves (session.run leafText answer actions).graph := by
  induction actions generalizing session with
  | nil => exact .refl
  | cons action rest ih =>
      exact (session.act_evolves leafText answer action).trans
        (ih (session.act leafText answer action))

end Session

end Eligibility
