import Eligibility.Proofs.Rule.Algebra
import Eligibility.Proofs.Rule.Remainder

/-!
# Verdicts of combined rules

When rules have a verdict in every state, the verdict of what they are combined to is the
combination of their verdicts, and no order of evaluation shows.
-/

set_option autoImplicit false

namespace Eligibility

namespace Connective

def combine : Connective → Bool → Bool → Bool
  | .conjunction, first, second => first && second
  | .disjunction, first, second => first || second

theorem combine_eq (connective : Connective) (first second : Bool) :
    connective.combine first second = if first = connective.neutral then second else first := by
  cases connective <;> cases first <;> rfl

end Connective

namespace Rule

variable {Label Criterion State : Type}

/-! ## Leaves -/

theorem leaves_clauses (connective : Connective) (rule : Rule Label Criterion) :
    (rule.clauses connective).flatMap leaves = rule.leaves := by
  cases isJoined : rule.joins connective with
  | true =>
      obtain ⟨label, children, rfl⟩ := (joins_iff connective rule).mp isJoined
      rw [clauses_compound, leaves_compound]
  | false => rw [clauses_of_not_joins connective rule isJoined, List.flatMap_singleton]

theorem leaves_joined (label : Label) (connective : Connective)
    (receiver other : Rule Label Criterion) :
    (joined label connective receiver other).leaves = receiver.leaves ++ other.leaves := by
  rw [joined, leaves_compound]
  cases isJoined : receiver.joins connective with
  | true =>
      obtain ⟨root, children, rfl⟩ := (joins_iff connective receiver).mp isJoined
      rw [if_pos rfl, List.flatMap_append, leaves_clauses, leaves_compound]
      rfl
  | false => simp

/-! ## Verdicts -/

/-- The rule has a verdict, the same one in every state. -/
def IsJudged (answer : Label → Criterion → Trial State Bool) (rule : Rule Label Criterion)
    (verdict : Bool) : Prop :=
  ∀ state, (rule.judge answer).outcome state = .ok verdict

section

variable (answer : Label → Criterion → Trial State Bool)

theorem isJudged_of_steady (rule : Rule Label Criterion) (steady : rule.IsSteadyUnder answer)
    (state : State) (verdict : Bool) (judged : (rule.judge answer).outcome state = .ok verdict) :
    rule.IsJudged answer verdict :=
  fun other => (rule.judge_steady answer steady other state).trans judged

theorem clauses_of_judged (connective : Connective) (rule : Rule Label Criterion) (state : State)
    (verdict : Bool) (judged : (rule.judge answer).outcome state = .ok verdict) :
    rule.clauses connective ≠ [] := by
  cases isJoined : rule.joins connective with
  | true =>
      obtain ⟨label, children, rfl⟩ := (joins_iff connective rule).mp isJoined
      rw [clauses_compound]
      exact filled_of_judged answer label connective children state verdict judged
  | false =>
      rw [clauses_of_not_joins connective rule isJoined]
      exact List.cons_ne_nil _ _

theorem isJudged_joined (label : Label) (connective : Connective)
    (receiver other : Rule Label Criterion) (first second : Bool)
    (receiverJudged : receiver.IsJudged answer first) (otherJudged : other.IsJudged answer second) :
    (joined label connective receiver other).IsJudged answer
      (connective.combine first second) := by
  intro state
  have asks := joined_asksInTurn label connective receiver other
    (clauses_of_judged answer connective receiver state first (receiverJudged state))
    (clauses_of_judged answer connective other state second (otherJudged state))
  rw [asks.judged State answer, List.map_cons, List.map_singleton, Trial.inTurn,
    Trial.outcome_bind, receiverJudged state, Trial.inTurn_single, Connective.combine_eq]
  simp only [Except.bind]
  split
  · exact otherJudged _
  · rfl

theorem isJudged_exclusive (label : Label) (left right : Rule Label Criterion)
    (first second : Bool) (leftJudged : left.IsJudged answer first)
    (rightJudged : right.IsJudged answer second) :
    IsJudged answer (.exclusive label left right) (first != second) := by
  intro state
  have rightSteady : (right.judge answer).IsSteady :=
    fun earlier later => (rightJudged earlier).trans (rightJudged later).symm
  rw [judge_exclusive_outcome answer label left right rightSteady, leftJudged, rightJudged]
  rfl

theorem isJudged_negation (label : Label) (operand : Rule Label Criterion) (verdict : Bool)
    (operandJudged : operand.IsJudged answer verdict) :
    IsJudged answer (.negation label operand) (!verdict) := by
  intro state
  rw [judge_negation_outcome, operandJudged]
  rfl

end

end Rule

end Eligibility
