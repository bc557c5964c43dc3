import Eligibility.Proofs.Rule.Criteria
import Eligibility.Proofs.Session.Basic

/-!
# Sealed rules over sessions

Once a node is sealed, nothing that is done later in the session changes the rule below it.
-/

set_option autoImplicit false

namespace Eligibility

namespace Session

section

variable {Subject Criterion State : Type}

theorem run_isSealedThrough (leafText : Criterion → String)
    (answer : Subject → NodeId → Criterion → Trial State Bool) (state : State)
    (actions : List (Action Subject Criterion)) :
    ((start state).run leafText answer actions).graph.IsSealedThrough :=
  (Graph.evolves_keeps_sealed _ _ (run_evolves leafText answer (start state) actions)
    Graph.empty_isSealedThrough).1

/-- At any point of a session, the nodes below a sealed node are sealed.  At any later point they
are what they were: the same nodes with the same children, and so the same rule, which has the same
description and gives a visitor the same result.  Where the leaves of the rule answer without regard
to the state, its verdict and its remainder are the same too. -/
theorem sealed_rule_never_changes (leafText : Criterion → String)
    (answer : Subject → NodeId → Criterion → Trial State Bool) (state : State)
    (earlier later : List (Action Subject Criterion)) (before after : Session Criterion State)
    (reached : before = (start state).run leafText answer earlier)
    (continued : after = before.run leafText answer later)
    (id : NodeId) (isSealed : before.graph.isSealed id = true) :
    (∀ below, before.graph.Reaches id below → before.graph.isSealed below = true ∧
      after.graph.node? below = before.graph.node? below) ∧
    (∀ below, after.graph.Reaches id below ↔ before.graph.Reaches id below) ∧
    ∃ rule, before.graph.rule? id = some rule ∧ after.graph.rule? id = some rule ∧
      ∀ subject, rule.IsSteadyUnder (answer subject) →
        (rule.judge (answer subject)).outcome after.state =
          (rule.judge (answer subject)).outcome before.state ∧
        (rule.remainder (answer subject)).outcome after.state =
          (rule.remainder (answer subject)).outcome before.state := by
  have invariant : before.graph.IsSealedThrough := by
    rw [reached]
    exact run_isSealedThrough leafText answer state earlier
  have evolves : before.graph.Evolves after.graph := by
    rw [continued]
    exact run_evolves leafText answer before later
  obtain ⟨sameNodes, samePaths, rule, earlierRule, laterRule⟩ :=
    Graph.sealed_rule_stays before.graph after.graph evolves invariant id isSealed
  refine ⟨sameNodes, samePaths, rule, earlierRule, laterRule, ?_⟩
  intro subject steady
  exact ⟨rule.judge_steady (answer subject) steady after.state before.state,
    rule.remainder_steady (answer subject) steady after.state before.state⟩

end

def publishing : List (Action Subject Criterion) :=
  [.operate (.create (.leaf (.flagged "a"))), .operate (.create (.leaf (.flagged "b"))),
    .operate (.create (.compound .conjunction [0, 1])), .openBuilder,
    .callBuilder 0 (.start 2), .callBuilder 0 .build]

/-- The conjunction and its first flag are joined with another flag, and what remains of the
longer conjunction is joined with it and sealed. -/
def reusing : List (Action Subject Criterion) :=
  [.operate (.create (.leaf (.flagged "c"))), .operate (.join .conjunction 2 3),
    .operate (.join .disjunction 0 3), .evaluate 4 (.plain []) ⟨true, false, .console⟩,
    .remainder 4 (.plain [("a", .boolean true)]), .operate (.join .conjunction 6 4),
    .callBuilder 0 (.join .conjunction 3), .operate (.sealRule 6)]

def published : Rule NodeId Criterion :=
  .compound 2 .conjunction [.leaf 0 (.flagged "a"), .leaf 1 (.flagged "b")]

theorem published_steady (subject : Subject) :
    published.IsSteadyUnder (Criterion.answer subject) :=
  published.isSteadyUnder_of_no_script subject rfl

theorem published_rule_survives_reuse :
    let before := (start []).run Criterion.text Criterion.answer publishing
    let after := before.run Criterion.text Criterion.answer reusing
    before.graph.isSealed 2 = true ∧ before.graph.Reaches 2 1 ∧
      after.graph.node? 1 = some ⟨.leaf (.flagged "b"), true⟩ ∧
      after.graph.rule? 2 = some published ∧
      ∀ subject, (published.judge (Criterion.answer subject)).outcome after.state =
          (published.judge (Criterion.answer subject)).outcome [] ∧
        (published.remainder (Criterion.answer subject)).outcome after.state =
          (published.remainder (Criterion.answer subject)).outcome [] := by
  intro before after
  have isSealed : before.graph.isSealed 2 = true := rfl
  have second : before.graph.Reaches 2 1 :=
    .through 2 1 1 (.compound .conjunction [0, 1]) rfl (by simp [Shape.children]) (.self 1)
  have earlierRule : before.graph.rule? 2 = some published := rfl
  obtain ⟨sameNodes, -, rule, sameRule, laterRule, steadyAnswers⟩ :=
    sealed_rule_never_changes Criterion.text Criterion.answer [] publishing reusing before after
      rfl rfl 2 isSealed
  rw [earlierRule] at sameRule
  cases sameRule
  refine ⟨isSealed, second, (sameNodes 1 second).2.trans rfl, laterRule, ?_⟩
  exact fun subject => steadyAnswers subject (published_steady subject)

end Session

end Eligibility
