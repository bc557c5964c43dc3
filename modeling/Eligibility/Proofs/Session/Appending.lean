import Eligibility.Proofs.Graph.Appending
import Eligibility.Proofs.Session.Sealing

/-!
# What sessions append

Over a session nodes are added and open connectives get further children, and nothing is ever
taken back.  A connective that was there before an action grows only if the action calls it with
its own connective, and so every rule without that node is what it was.  Questions change no rule.
-/

set_option autoImplicit false

namespace Eligibility

namespace Session

section

variable {Subject Criterion State : Type}

/-- The node that an action calls with a connective: the receiver of a composition, the first of
several nodes that are joined, or the root of the builder that is called. -/
def receiver? (session : Session Criterion State) :
    Action Subject Criterion → Option (Connective × NodeId)
  | .operate operation => operation.receiver?
  | .callBuilder position call => (session.builders[position]?).bind (·.receiver? call)
  | _ => none

/-- An action extends no node below a root. -/
def Spares (session : Session Criterion State) (action : Action Subject Criterion)
    (root : NodeId) : Prop :=
  ∀ connective receiver, session.receiver? action = some (connective, receiver) →
    session.graph.IsOpen connective receiver → ¬session.graph.Reaches root receiver

theorem spares_of_labels (session : Session Criterion State)
    (action : Action Subject Criterion) (root : NodeId) (rule : Rule NodeId Criterion)
    (unfolded : session.graph.rule? root = some rule)
    (outside : ∀ connective receiver, session.receiver? action = some (connective, receiver) →
      receiver ∉ rule.labels) : session.Spares action root := by
  obtain ⟨rfl, held⟩ := (Graph.rule?_eq_some_iff session.graph root rule).mp unfolded
  intro connective receiver called _ path
  exact outside connective receiver called
    ((Graph.reaches_iff_of_holds session.graph rule held receiver).mp path)

/-! ## Questions -/

theorem node?_of_proceed (session : Session Criterion State) (state : State)
    (found : Except Fault (List (Rule.Remainder NodeId Criterion))) (id : NodeId)
    (node : Node Criterion) (present : session.graph.node? id = some node) :
    (session.proceed state found).graph.node? id = some node := by
  cases found with
  | error fault => exact present
  | ok remainders =>
      have placed : ∀ graph : Graph Criterion, graph.node? id = some node →
          (remainders.foldl (fun reached remainder => (reached.place remainder).2) graph).node? id =
            some node := by
        induction remainders with
        | nil => exact fun graph here => here
        | cons remainder rest ih =>
            exact fun graph here => ih _ (graph.node?_of_place remainder id node here)
      exact placed session.graph present

theorem node?_of_ask (session : Session Criterion State) (node : NodeId)
    (question : Rule NodeId Criterion →
      StateM State (Except Fault (List (Rule.Remainder NodeId Criterion)))) (id : NodeId)
    (present : Node Criterion) (found : session.graph.node? id = some present) :
    (session.ask node question).graph.node? id = some present := by
  rw [ask]
  split
  · exact found
  · exact node?_of_proceed session _ _ id present found

theorem ask_appends (mayGrow : Connective → NodeId → Prop) (session : Session Criterion State)
    (node : NodeId) (question : Rule NodeId Criterion →
      StateM State (Except Fault (List (Rule.Remainder NodeId Criterion)))) :
    session.graph.Appends mayGrow (session.ask node question).graph :=
  Graph.appends_of_same mayGrow _ _ (session.node?_of_ask node question)

/-! ## Actions -/

/-- The step: among the nodes that were there, only the receiver of the action may grow. -/
theorem act_appends (leafText : Criterion → String)
    (answer : Subject → NodeId → Criterion → Trial State Bool) (session : Session Criterion State)
    (action : Action Subject Criterion) :
    session.graph.Appends
      (fun connective id => session.receiver? action = some (connective, id))
      (session.act leafText answer action).graph := by
  cases action with
  | operate operation => exact session.graph.perform_appends operation
  | openBuilder => exact Graph.appends_self _ session.graph
  | callBuilder position call =>
      rw [act, callBuilder]
      split
      · exact Graph.appends_self _ session.graph
      next builder found =>
        split
        next changed graph performed =>
          simp only [receiver?, found, Option.bind_some]
          exact builder.perform_appends changed session.graph graph call performed
        next => exact Graph.appends_self _ session.graph
  | judge node subject => exact session.ask_appends _ node _
  | remainder node subject => exact session.ask_appends _ node _
  | evaluate node subject policy => exact session.ask_appends _ node _
  | evaluateAll node subjects policy => exact session.ask_appends _ node _

/-- From any point of a session on, nodes are only added, and keep their kind, their criterion and
their operands; a connective keeps the children it has and may get further ones after them while it
is open, and what is sealed stays sealed.  In one action, of the nodes that were there, only an
open connective that the action calls with that connective gets children.  So a rule from whose
root this node is not reached remains the same, with the same description and, over steady leaves,
the same verdict; and a question of any kind, be it for a verdict, a remainder, an evaluation, a
description or what a visitor makes of the rule, changes no node and no rule. -/
theorem graph_grows_at_receivers_only (leafText : Criterion → String)
    (answer : Subject → NodeId → Criterion → Trial State Bool)
    (session : Session Criterion State) :
    (∀ actions : List (Action Subject Criterion),
      session.graph.Appends (fun _ _ => True) (session.run leafText answer actions).graph) ∧
    (∀ action : Action Subject Criterion,
      session.graph.Appends
        (fun connective id => session.receiver? action = some (connective, id))
        (session.act leafText answer action).graph) ∧
    (∀ (action : Action Subject Criterion) (root : NodeId) (rule : Rule NodeId Criterion),
      session.graph.rule? root = some rule → session.Spares action root →
      (session.act leafText answer action).graph.rule? root = some rule ∧
      ∀ subject, rule.IsSteadyUnder (answer subject) →
        (rule.judge (answer subject)).outcome (session.act leafText answer action).state =
          (rule.judge (answer subject)).outcome session.state) ∧
    ∀ (node : NodeId) (question : Rule NodeId Criterion →
        StateM State (Except Fault (List (Rule.Remainder NodeId Criterion)))),
      (∀ id present, session.graph.node? id = some present →
        (session.ask node question).graph.node? id = some present) ∧
      ∀ root rule, session.graph.rule? root = some rule →
        (session.ask node question).graph.rule? root = some rule := by
  refine ⟨?_, ?_, ?_, ?_⟩
  · intro actions
    exact Graph.evolves_appends _ _ (session.run_evolves leafText answer actions)
  · exact session.act_appends leafText answer
  · intro action root rule unfolded spares
    refine ⟨?_, ?_⟩
    · exact Graph.rule?_of_appends _ _ _ (session.act_appends leafText answer action) root spares
        rule unfolded
    · intro subject steady
      exact rule.judge_steady (answer subject) steady _ _
  · intro node question
    refine ⟨session.node?_of_ask node question, ?_⟩
    intro root rule unfolded
    exact Graph.rule?_of_appends (fun _ _ => False) _ _ (session.ask_appends _ node question) root
      (fun _ _ never => never.elim) rule unfolded

end

def drafting : List (Action Subject Criterion) :=
  [.operate (.create (.leaf (.flagged "a"))), .operate (.create (.leaf (.flagged "b"))),
    .operate (.create (.compound .conjunction [0])),
    .operate (.create (.compound .conjunction [1])),
    .operate (.create (.compound .disjunction [3]))]

def alternative : Rule NodeId Criterion :=
  .compound 4 .disjunction [.compound 3 .conjunction [.leaf 1 (.flagged "b")]]

theorem alternative_steady (subject : Subject) :
    alternative.IsSteadyUnder (Criterion.answer subject) :=
  alternative.isSteadyUnder_of_no_script subject rfl

/-- The first conjunction gets the clause of the second one, which stays as it is together with the
disjunction that refers to it. -/
theorem operand_of_longer_conjunction_stays :
    let session := (start []).run Criterion.text Criterion.answer drafting
    let action : Action Subject Criterion := .operate (.join .conjunction 2 3)
    let later := session.act Criterion.text Criterion.answer action
    session.receiver? action = some (.conjunction, 2) ∧ session.Spares action 4 ∧
      later.graph.node? 2 = some ⟨.compound .conjunction [0, 1], false⟩ ∧
      session.graph.rule? 4 = some alternative ∧ later.graph.rule? 4 = some alternative ∧
      ∀ subject, (alternative.judge (Criterion.answer subject)).outcome later.state =
        (alternative.judge (Criterion.answer subject)).outcome session.state := by
  intro session action later
  have unfolded : session.graph.rule? 4 = some alternative := rfl
  have spares : session.Spares action 4 :=
    session.spares_of_labels action 4 alternative unfolded <| by
      rintro connective receiver ⟨⟩
      decide
  obtain ⟨-, -, stays, -⟩ :=
    graph_grows_at_receivers_only Criterion.text Criterion.answer session
  obtain ⟨laterRule, sameVerdict⟩ := stays action 4 alternative unfolded spares
  refine ⟨rfl, spares, rfl, unfolded, laterRule, ?_⟩
  exact fun subject => sameVerdict subject (alternative_steady subject)

end Session

end Eligibility
