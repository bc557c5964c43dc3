import Eligibility.Proofs.Rule.Tree
import Eligibility.Proofs.Trial

/-!
# Rules over steady criteria

When the answers of the leaves do not depend on the state, neither do the verdict and the
remainder of the rule.  The verdict of a connective is then a matter of the outcomes of its
clauses, all of them taken from the same state.
-/

set_option autoImplicit false

namespace Eligibility

namespace Rule

variable {Label Criterion State : Type}

/-- The leaves of a rule give answers that do not depend on the state. -/
def IsSteadyUnder (answer : Label → Criterion → Trial State Bool)
    (rule : Rule Label Criterion) : Prop :=
  ∀ leaf ∈ rule.leaves, (answer leaf.1 leaf.2).IsSteady

theorem isSteadyUnder_part (answer : Label → Criterion → Trial State Bool)
    (rule part : Rule Label Criterion) (steady : rule.IsSteadyUnder answer)
    (member : part ∈ rule.parts) : part.IsSteadyUnder answer :=
  fun leaf inside => steady leaf (leaves_of_part rule part member leaf inside)

theorem judgeAll_steady (answer : Label → Criterion → Trial State Bool)
    (connective : Connective) (children : List (Rule Label Criterion))
    (childSteady : ∀ child ∈ children, (child.judge answer).IsSteady) :
    (judgeAll answer connective children).IsSteady := by
  induction children with
  | nil => exact Trial.steady_pure connective.neutral
  | cons child rest ih =>
      have restSteady := ih (List.forall_mem_cons.mp childSteady).2
      rw [judgeAll]
      refine Trial.steady_bind _ _ (childSteady child (List.mem_cons_self ..)) ?_
      intro verdict
      split
      · exact restSteady
      · exact Trial.steady_pure verdict

theorem judge_steady (answer : Label → Criterion → Trial State Bool)
    (rule : Rule Label Criterion) (steady : rule.IsSteadyUnder answer) :
    (rule.judge answer).IsSteady := by
  induction rule using induct with
  | leaf label criterion =>
      rw [judge]
      exact steady (label, criterion) (by simp)
  | constant label verdict =>
      rw [judge]
      exact Trial.steady_pure verdict
  | compound label connective children childInduction =>
      cases children with
      | nil => exact Trial.steady_throw _
      | cons child rest =>
          rw [judge]
          apply judgeAll_steady
          intro other member
          exact childInduction other member (isSteadyUnder_part answer _ other steady member)
  | exclusive label left right leftInduction rightInduction =>
      have leftSteady := leftInduction (isSteadyUnder_part answer _ left steady (by simp [parts]))
      have rightSteady :=
        rightInduction (isSteadyUnder_part answer _ right steady (by simp [parts]))
      rw [judge]
      refine Trial.steady_bind _ _ leftSteady fun first => ?_
      exact Trial.steady_bind _ _ rightSteady fun second => Trial.steady_pure (first != second)
  | negation label operand operandInduction =>
      rw [judge]
      exact Trial.steady_bind _ _ (operandInduction steady) fun verdict =>
        Trial.steady_pure (!verdict)

theorem unsatisfied_steady (answer : Label → Criterion → Trial State Bool)
    (children : List (Rule Label Criterion))
    (childSteady : ∀ child ∈ children, (child.judge answer).IsSteady) :
    (unsatisfied answer children).IsSteady := by
  induction children with
  | nil => exact Trial.steady_pure []
  | cons child rest ih =>
      have restSteady := ih (List.forall_mem_cons.mp childSteady).2
      rw [unsatisfied]
      refine Trial.steady_bind _ _ (childSteady child (List.mem_cons_self ..)) fun verdict => ?_
      exact Trial.steady_bind _ _ restSteady fun others => Trial.steady_pure _

theorem judge_exclusive_outcome (answer : Label → Criterion → Trial State Bool)
    (label : Label) (left right : Rule Label Criterion)
    (rightSteady : (right.judge answer).IsSteady) (state : State) :
    (judge answer (.exclusive label left right)).outcome state =
      ((left.judge answer).outcome state).bind fun first =>
        ((right.judge answer).outcome state).map fun second => first != second := by
  rw [judge, Trial.outcome_bind_of_steady]
  · congr 1
    funext first
    rw [Trial.outcome_bind_of_steady _ _ fun second => Trial.steady_pure _]
    cases (right.judge answer).outcome state with
    | error fault => rfl
    | ok second => rfl
  · intro first
    exact Trial.steady_bind _ _ rightSteady fun second => Trial.steady_pure (first != second)

theorem judge_negation_outcome (answer : Label → Criterion → Trial State Bool)
    (label : Label) (operand : Rule Label Criterion) (state : State) :
    (judge answer (.negation label operand)).outcome state =
      ((operand.judge answer).outcome state).map fun verdict => !verdict := by
  rw [judge, Trial.outcome_bind_of_steady _ _ fun verdict => Trial.steady_pure _]
  cases (operand.judge answer).outcome state with
  | error fault => rfl
  | ok verdict => rfl

/-! ## Connectives -/

theorem judgeAll_outcome_cons (answer : Label → Criterion → Trial State Bool)
    (connective : Connective) (child : Rule Label Criterion) (rest : List (Rule Label Criterion))
    (restSteady : ∀ other ∈ rest, (other.judge answer).IsSteady) (state : State) :
    (judgeAll answer connective (child :: rest)).outcome state =
      ((child.judge answer).outcome state).bind fun verdict =>
        if verdict = connective.neutral then
          (judgeAll answer connective rest).outcome state
        else
          .ok verdict := by
  rw [judgeAll, Trial.outcome_bind_of_steady]
  · congr 1
    funext verdict
    split <;> rfl
  · intro verdict
    split
    · exact judgeAll_steady answer connective rest restSteady
    · exact Trial.steady_pure verdict

/-- Clauses leave the question open exactly when every one of them does. -/
theorem judgeAll_neutral_iff (answer : Label → Criterion → Trial State Bool)
    (connective : Connective) (children : List (Rule Label Criterion))
    (childSteady : ∀ child ∈ children, (child.judge answer).IsSteady) (state : State) :
    (judgeAll answer connective children).outcome state = .ok connective.neutral ↔
      ∀ child ∈ children, (child.judge answer).outcome state = .ok connective.neutral := by
  induction children with
  | nil => exact iff_of_true rfl (List.forall_mem_nil _)
  | cons child rest ih =>
      have restSteady := (List.forall_mem_cons.mp childSteady).2
      rw [judgeAll_outcome_cons answer connective child rest restSteady,
        List.forall_mem_cons, ← ih restSteady]
      cases (child.judge answer).outcome state with
      | error fault => simp [Except.bind]
      | ok verdict =>
          by_cases isNeutral : verdict = connective.neutral
          · simp [Except.bind, isNeutral]
          · simp [Except.bind, isNeutral]

/-- Clauses that leave the question open leave it to the clauses after them. -/
theorem judgeAll_after_neutral (answer : Label → Criterion → Trial State Bool)
    (connective : Connective) (front back : List (Rule Label Criterion))
    (childSteady : ∀ child ∈ front ++ back, (child.judge answer).IsSteady) (state : State)
    (neutral : ∀ child ∈ front, (child.judge answer).outcome state = .ok connective.neutral) :
    (judgeAll answer connective (front ++ back)).outcome state =
      (judgeAll answer connective back).outcome state := by
  induction front with
  | nil => rfl
  | cons child rest ih =>
      rw [List.cons_append] at childSteady
      have restSteady := (List.forall_mem_cons.mp childSteady).2
      obtain ⟨childNeutral, restNeutral⟩ := List.forall_mem_cons.mp neutral
      rw [List.cons_append, judgeAll_outcome_cons answer connective child _ restSteady,
        childNeutral]
      simp [Except.bind, ih restSteady restNeutral]

/-- The first clause that does not leave the question open decides it. -/
theorem judgeAll_of_settling (answer : Label → Criterion → Trial State Bool)
    (connective : Connective) (front back : List (Rule Label Criterion))
    (clause : Rule Label Criterion)
    (childSteady : ∀ child ∈ front ++ clause :: back, (child.judge answer).IsSteady)
    (state : State)
    (neutral : ∀ child ∈ front, (child.judge answer).outcome state = .ok connective.neutral)
    (settles : (clause.judge answer).outcome state ≠ .ok connective.neutral) :
    (judgeAll answer connective (front ++ clause :: back)).outcome state =
      (clause.judge answer).outcome state := by
  have backSteady : ∀ other ∈ back, (other.judge answer).IsSteady :=
    fun other member => childSteady other (by simp [member])
  rw [judgeAll_after_neutral answer connective front _ childSteady state neutral,
    judgeAll_outcome_cons answer connective clause back backSteady]
  cases found : (clause.judge answer).outcome state with
  | error fault => rfl
  | ok verdict =>
      have notNeutral : verdict ≠ connective.neutral := fun same => settles (same ▸ found)
      simp [Except.bind, notNeutral]

/-- Clauses that all have a verdict give one together. -/
theorem judgeAll_answered (answer : Label → Criterion → Trial State Bool)
    (connective : Connective) (children : List (Rule Label Criterion))
    (childSteady : ∀ child ∈ children, (child.judge answer).IsSteady) (state : State)
    (answered : ∀ child ∈ children, ∃ verdict, (child.judge answer).outcome state = .ok verdict) :
    ∃ verdict, (judgeAll answer connective children).outcome state = .ok verdict := by
  induction children with
  | nil => exact ⟨connective.neutral, rfl⟩
  | cons child rest ih =>
      have restSteady := (List.forall_mem_cons.mp childSteady).2
      obtain ⟨⟨verdict, childOutcome⟩, restAnswered⟩ := List.forall_mem_cons.mp answered
      rw [judgeAll_outcome_cons answer connective child rest restSteady, childOutcome]
      by_cases isNeutral : verdict = connective.neutral
      · obtain ⟨later, restOutcome⟩ := ih restSteady restAnswered
        exact ⟨later, by simp [Except.bind, isNeutral, restOutcome]⟩
      · exact ⟨verdict, by simp [Except.bind, isNeutral]⟩

end Rule

end Eligibility
