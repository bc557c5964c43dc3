import Eligibility.Proofs.Rule.Remainder

/-!
# Rules over criteria that always answer

When every leaf gives a verdict that does not depend on the state, and no connective is without
clauses, the rule has a verdict and so does each of its clauses.
-/

set_option autoImplicit false

namespace Eligibility

namespace Rule

variable {Label Criterion State : Type}

/-- The leaves of a rule give verdicts that do not depend on the state. -/
def IsAnsweredUnder (answer : Label → Criterion → Trial State Bool)
    (rule : Rule Label Criterion) : Prop :=
  ∀ leaf ∈ rule.leaves, ∃ verdict, ∀ state, (answer leaf.1 leaf.2).outcome state = .ok verdict

def IsSatisfiedUnder (answer : Label → Criterion → Trial State Bool)
    (rule : Rule Label Criterion) : Prop :=
  ∀ state, (rule.judge answer).outcome state = .ok true

def IsUnsatisfiedUnder (answer : Label → Criterion → Trial State Bool)
    (rule : Rule Label Criterion) : Prop :=
  ∀ state, (rule.judge answer).outcome state = .ok false

theorem steady_of_answered (answer : Label → Criterion → Trial State Bool)
    (rule : Rule Label Criterion) (answered : rule.IsAnsweredUnder answer) :
    rule.IsSteadyUnder answer := by
  intro leaf member earlier later
  obtain ⟨verdict, outcome⟩ := answered leaf member
  rw [outcome earlier, outcome later]

theorem isAnsweredUnder_part (answer : Label → Criterion → Trial State Bool)
    (rule part : Rule Label Criterion) (answered : rule.IsAnsweredUnder answer)
    (member : part ∈ rule.parts) : part.IsAnsweredUnder answer :=
  fun leaf inside => answered leaf (leaves_of_part rule part member leaf inside)

theorem judge_answered (answer : Label → Criterion → Trial State Bool)
    (rule : Rule Label Criterion) (answered : rule.IsAnsweredUnder answer)
    (filled : rule.isFilled = true) (state : State) :
    ∃ verdict, (rule.judge answer).outcome state = .ok verdict := by
  induction rule using induct with
  | leaf label criterion =>
      obtain ⟨verdict, outcome⟩ := answered (label, criterion) (by simp)
      exact ⟨verdict, by rw [judge]; exact outcome state⟩
  | constant label verdict => exact ⟨verdict, by rw [judge]; rfl⟩
  | compound label connective children childInduction =>
      obtain ⟨nonempty, childFilled⟩ := (isFilled_compound_iff label connective children).mp filled
      have childAnswered : ∀ child ∈ children, child.IsAnsweredUnder answer :=
        fun child member => isAnsweredUnder_part answer _ child answered member
      have childSteady : ∀ child ∈ children, (child.judge answer).IsSteady :=
        fun child member => judge_steady answer child
          (steady_of_answered answer child (childAnswered child member))
      cases children with
      | nil => exact absurd rfl nonempty
      | cons child rest =>
          rw [judge]
          apply judgeAll_answered answer connective _ childSteady
          intro other member
          exact childInduction other member (childAnswered other member) (childFilled other member)
  | exclusive label left right leftInduction rightInduction =>
      rw [isFilled_exclusive, Bool.and_eq_true] at filled
      have leftAnswered := isAnsweredUnder_part answer _ left answered (by simp [parts])
      have rightAnswered := isAnsweredUnder_part answer _ right answered (by simp [parts])
      have rightSteady := judge_steady answer right (steady_of_answered answer right rightAnswered)
      obtain ⟨first, leftOutcome⟩ := leftInduction leftAnswered filled.1
      obtain ⟨second, rightOutcome⟩ := rightInduction rightAnswered filled.2
      rw [judge_exclusive_outcome answer label left right rightSteady, leftOutcome, rightOutcome]
      exact ⟨first != second, rfl⟩
  | negation label operand operandInduction =>
      obtain ⟨verdict, outcome⟩ := operandInduction answered filled
      rw [judge_negation_outcome, outcome]
      exact ⟨!verdict, rfl⟩

def IsDecidedUnder (answer : Label → Criterion → Trial State Bool)
    (rule : Rule Label Criterion) : Prop :=
  rule.IsSatisfiedUnder answer ∨ rule.IsUnsatisfiedUnder answer

theorem decided_of_answered (answer : Label → Criterion → Trial State Bool)
    (rule : Rule Label Criterion) (answered : rule.IsAnsweredUnder answer)
    (filled : rule.isFilled = true) (state : State) :
    rule.IsDecidedUnder answer := by
  have steady := judge_steady answer rule (steady_of_answered answer rule answered)
  obtain ⟨verdict, outcome⟩ := judge_answered answer rule answered filled state
  cases verdict with
  | true =>
      refine Or.inl fun later => ?_
      rw [steady later state, outcome]
  | false =>
      refine Or.inr fun later => ?_
      rw [steady later state, outcome]

/-! ## Clauses that are decided -/

theorem clauses_decided (answer : Label → Criterion → Trial State Bool) (label : Label)
    (children : List (Rule Label Criterion))
    (answered : IsAnsweredUnder answer (.compound label .conjunction children))
    (filled : isFilled (.compound label .conjunction children) = true) (state : State) :
    ∀ child ∈ children, child.IsDecidedUnder answer := by
  intro child member
  exact decided_of_answered answer child (isAnsweredUnder_part answer _ child answered member)
    (((isFilled_compound_iff label .conjunction children).mp filled).2 child member) state

theorem isUnsatisfied_iff_of_decided (answer : Label → Criterion → Trial State Bool)
    (rule : Rule Label Criterion) (decided : rule.IsDecidedUnder answer) (state : State) :
    rule.isUnsatisfied answer state = true ↔ rule.IsUnsatisfiedUnder answer := by
  rw [isUnsatisfied_iff]
  constructor
  · intro fails
    rcases decided with satisfied | unsatisfied
    · rw [satisfied state] at fails
      cases fails
    · exact unsatisfied
  · intro unsatisfied
    exact unsatisfied state

theorem satisfied_iff_of_decided (answer : Label → Criterion → Trial State Bool)
    (rule : Rule Label Criterion) (decided : rule.IsDecidedUnder answer) (state : State) :
    ¬rule.isUnsatisfied answer state = true ↔ rule.IsSatisfiedUnder answer := by
  rw [isUnsatisfied_iff]
  constructor
  · intro holds
    rcases decided with satisfied | unsatisfied
    · exact satisfied
    · exact absurd (unsatisfied state) holds
  · intro satisfied fails
    rw [satisfied state] at fails
    cases fails

theorem some_clause_fails (answer : Label → Criterion → Trial State Bool) (label : Label)
    (children : List (Rule Label Criterion))
    (steady : IsSteadyUnder answer (.compound label .conjunction children))
    (decided : ∀ child ∈ children, child.IsDecidedUnder answer) (state : State)
    (unsatisfied : (judge answer (.compound label .conjunction children)).outcome state =
      .ok false) :
    children.filter (isUnsatisfied answer state) ≠ [] := by
  intro noneFails
  have filled := filled_of_judged answer label .conjunction children state false unsatisfied
  have holds : (judgeAll answer .conjunction children).outcome state = .ok true := by
    apply (judgeAll_neutral_iff answer .conjunction children
      (conjuncts_steady answer _ steady) state).mpr
    intro child member
    exact (satisfied_iff_of_decided answer child (decided child member) state).mp
      (List.filter_eq_nil_iff.mp noneFails child member) state
  rw [judge_conjunction_outcome answer label children filled, holds] at unsatisfied
  cases unsatisfied

end Rule

end Eligibility
