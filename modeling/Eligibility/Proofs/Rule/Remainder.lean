import Eligibility.Evaluation
import Eligibility.Proofs.Rule.Steady

/-!
# Remainders over steady criteria

A conjunction asks every one of its clauses for its remainder.  If all of them have a verdict, the
unsatisfied ones are left; otherwise the fault of the first one that has none is the outcome.
-/

set_option autoImplicit false

namespace Eligibility

namespace Rule

variable {Label Criterion State : Type}

/-- The clauses of a conjunction; any other rule has none. -/
def conjuncts : Rule Label Criterion → List (Rule Label Criterion)
  | .compound _ .conjunction children => children
  | _ => []

def isUnsatisfied (answer : Label → Criterion → Trial State Bool) (state : State)
    (rule : Rule Label Criterion) : Bool :=
  match (rule.judge answer).outcome state with
  | .ok verdict => !verdict
  | .error _ => false

theorem isUnsatisfied_iff (answer : Label → Criterion → Trial State Bool) (state : State)
    (rule : Rule Label Criterion) :
    rule.isUnsatisfied answer state = true ↔ (rule.judge answer).outcome state = .ok false := by
  unfold isUnsatisfied
  cases (rule.judge answer).outcome state with
  | error fault => simp
  | ok verdict => simp

variable (State) in
/-- A rule is a conjunction, or its remainder is nothing or the whole of it. -/
theorem conjunction_or_whole (rule : Rule Label Criterion) :
    (∃ label children, rule = .compound label .conjunction children) ∨
      rule.conjuncts = [] ∧
        (∀ answer : Label → Criterion → Trial State Bool,
          rule.remainder answer = rule.wholeRemainder answer) ∧
        (Remainder.existing rule).clauses = [rule] := by
  cases rule with
  | compound label connective children =>
      cases connective with
      | conjunction => exact Or.inl ⟨label, children, rfl⟩
      | disjunction => exact Or.inr ⟨rfl, fun _ => rfl, rfl⟩
  | leaf label criterion => exact Or.inr ⟨rfl, fun _ => rfl, rfl⟩
  | constant label verdict => exact Or.inr ⟨rfl, fun _ => rfl, rfl⟩
  | exclusive label left right => exact Or.inr ⟨rfl, fun _ => rfl, rfl⟩
  | negation label operand => exact Or.inr ⟨rfl, fun _ => rfl, rfl⟩

theorem conjuncts_steady (answer : Label → Criterion → Trial State Bool)
    (rule : Rule Label Criterion) (steady : rule.IsSteadyUnder answer) :
    ∀ clause ∈ rule.conjuncts, (clause.judge answer).IsSteady := by
  intro clause member
  rcases conjunction_or_whole State rule with ⟨label, children, rfl⟩ | ⟨none, -, -⟩
  · exact judge_steady answer clause (isSteadyUnder_part answer _ clause steady member)
  · simp [none] at member

theorem judge_conjunction_outcome (answer : Label → Criterion → Trial State Bool)
    (label : Label) (children : List (Rule Label Criterion)) (filled : children ≠ [])
    (state : State) :
    (judge answer (.compound label .conjunction children)).outcome state =
      (judgeAll answer .conjunction children).outcome state := by
  cases children with
  | nil => exact absurd rfl filled
  | cons child rest => rw [judge]

/-- A conjunction that has a verdict has clauses. -/
theorem filled_of_judged (answer : Label → Criterion → Trial State Bool)
    (label : Label) (connective : Connective) (children : List (Rule Label Criterion))
    (state : State) (verdict : Bool)
    (judged : (judge answer (.compound label connective children)).outcome state =
      .ok verdict) :
    children ≠ [] := by
  rintro rfl
  rw [judge, Trial.outcome_throw] at judged
  cases judged

/-- A satisfied rule has no clause of a conjunction that is not satisfied. -/
theorem conjuncts_satisfied (answer : Label → Criterion → Trial State Bool)
    (rule : Rule Label Criterion) (steady : rule.IsSteadyUnder answer) (state : State)
    (satisfied : (rule.judge answer).outcome state = .ok true) :
    ∀ clause ∈ rule.conjuncts, (clause.judge answer).outcome state = .ok true := by
  have clauseSteady := conjuncts_steady answer rule steady
  rcases conjunction_or_whole State rule with ⟨label, children, rfl⟩ | ⟨none, -, -⟩
  · have filled := filled_of_judged answer label .conjunction children state true satisfied
    rw [judge_conjunction_outcome answer label children filled] at satisfied
    exact (judgeAll_neutral_iff answer .conjunction children clauseSteady state).mp satisfied
  · simp [none]

/-- A rule that has a verdict has an unsatisfied clause before every clause that fails. -/
theorem unsatisfied_before_fault (answer : Label → Criterion → Trial State Bool)
    (rule : Rule Label Criterion) (steady : rule.IsSteadyUnder answer) (state : State)
    (verdict : Bool) (judged : (rule.judge answer).outcome state = .ok verdict)
    (front back : List (Rule Label Criterion)) (clause : Rule Label Criterion) (fault : Fault)
    (split : rule.conjuncts = front ++ clause :: back)
    (answered : ∀ other ∈ front, ∃ found, (other.judge answer).outcome state = .ok found)
    (failed : (clause.judge answer).outcome state = .error fault) :
    ∃ other ∈ front, (other.judge answer).outcome state = .ok false := by
  have clauseSteady := conjuncts_steady answer rule steady
  rcases conjunction_or_whole State rule with ⟨label, children, rfl⟩ | ⟨none, -, -⟩
  · have filled := filled_of_judged answer label .conjunction children state verdict judged
    rw [judge_conjunction_outcome answer label children filled] at judged
    change children = _ at split
    subst split
    refine Classical.byContradiction fun noneFails => ?_
    have neutral : ∀ other ∈ front, (other.judge answer).outcome state = .ok true := by
      intro other member
      obtain ⟨found, outcome⟩ := answered other member
      cases found with
      | true => exact outcome
      | false => exact absurd ⟨other, member, outcome⟩ noneFails
    rw [judgeAll_of_settling answer .conjunction front back clause clauseSteady state neutral
      (by simp [failed]), failed] at judged
    cases judged
  · simp [none] at split

/-! ## The unsatisfied clauses -/

theorem unsatisfied_outcome_cons (answer : Label → Criterion → Trial State Bool)
    (child : Rule Label Criterion) (rest : List (Rule Label Criterion))
    (restSteady : ∀ other ∈ rest, (other.judge answer).IsSteady) (state : State) :
    (unsatisfied answer (child :: rest)).outcome state =
      ((child.judge answer).outcome state).bind fun verdict =>
        ((unsatisfied answer rest).outcome state).bind fun others =>
          .ok (if verdict then others else child :: others) := by
  have tailSteady := unsatisfied_steady answer rest restSteady
  rw [unsatisfied, Trial.outcome_bind_of_steady]
  · congr 1
    funext verdict
    rw [Trial.outcome_bind_of_steady _ _ fun others => Trial.steady_pure _]
    rfl
  · intro verdict
    exact Trial.steady_bind _ _ tailSteady fun others => Trial.steady_pure _

theorem unsatisfied_of_answered (answer : Label → Criterion → Trial State Bool)
    (children : List (Rule Label Criterion))
    (childSteady : ∀ child ∈ children, (child.judge answer).IsSteady) (state : State)
    (answered : ∀ child ∈ children, ∃ verdict, (child.judge answer).outcome state = .ok verdict) :
    (unsatisfied answer children).outcome state =
      .ok (children.filter (isUnsatisfied answer state)) := by
  induction children with
  | nil => rfl
  | cons child rest ih =>
      have restSteady := (List.forall_mem_cons.mp childSteady).2
      obtain ⟨⟨verdict, childOutcome⟩, restAnswered⟩ := List.forall_mem_cons.mp answered
      have childTest : child.isUnsatisfied answer state = !verdict := by
        simp [isUnsatisfied, childOutcome]
      rw [unsatisfied_outcome_cons answer child rest restSteady, childOutcome,
        ih restSteady restAnswered, List.filter_cons, childTest]
      cases verdict with
      | true => rfl
      | false => rfl

/-- The first clause without a verdict decides the outcome by its fault. -/
theorem unsatisfied_of_fault (answer : Label → Criterion → Trial State Bool)
    (front back : List (Rule Label Criterion)) (clause : Rule Label Criterion)
    (childSteady : ∀ child ∈ front ++ clause :: back, (child.judge answer).IsSteady)
    (state : State) (fault : Fault)
    (answered : ∀ child ∈ front, ∃ verdict, (child.judge answer).outcome state = .ok verdict)
    (failed : (clause.judge answer).outcome state = .error fault) :
    (unsatisfied answer (front ++ clause :: back)).outcome state = .error fault := by
  induction front with
  | nil =>
      have backSteady := (List.forall_mem_cons.mp childSteady).2
      rw [List.nil_append, unsatisfied_outcome_cons answer clause back backSteady, failed]
      rfl
  | cons child rest ih =>
      rw [List.cons_append] at childSteady
      have restSteady := (List.forall_mem_cons.mp childSteady).2
      obtain ⟨⟨verdict, childOutcome⟩, restAnswered⟩ := List.forall_mem_cons.mp answered
      rw [List.cons_append, unsatisfied_outcome_cons answer child _ restSteady, childOutcome,
        ih restSteady restAnswered]
      rfl

/-- Either every clause has a verdict, or there is a first one without. -/
theorem answered_or_first_fault (answer : Label → Criterion → Trial State Bool)
    (children : List (Rule Label Criterion)) (state : State) :
    (∀ child ∈ children, ∃ verdict, (child.judge answer).outcome state = .ok verdict) ∨
      ∃ front clause back fault, children = front ++ clause :: back ∧
        (∀ child ∈ front, ∃ verdict, (child.judge answer).outcome state = .ok verdict) ∧
        (clause.judge answer).outcome state = .error fault := by
  induction children with
  | nil => exact Or.inl (by simp)
  | cons child rest ih =>
      cases childOutcome : (child.judge answer).outcome state with
      | error fault => exact Or.inr ⟨[], child, rest, fault, rfl, by simp, childOutcome⟩
      | ok verdict =>
          have childAnswered : ∃ found, (child.judge answer).outcome state = .ok found :=
            ⟨verdict, childOutcome⟩
          rcases ih with restAnswered | ⟨front, clause, back, fault, split, frontAnswered, failed⟩
          · exact Or.inl (List.forall_mem_cons.mpr ⟨childAnswered, restAnswered⟩)
          · refine Or.inr ⟨child :: front, clause, back, fault, by rw [split]; rfl, ?_, failed⟩
            exact List.forall_mem_cons.mpr ⟨childAnswered, frontAnswered⟩

/-! ## Remainders -/

theorem wholeRemainder_outcome (answer : Label → Criterion → Trial State Bool)
    (rule : Rule Label Criterion) (state : State) :
    (rule.wholeRemainder answer).outcome state =
      ((rule.judge answer).outcome state).map fun verdict =>
        if verdict then none else some (.existing rule) := by
  rw [wholeRemainder, Trial.outcome_bind_of_steady _ _ fun verdict => Trial.steady_pure _]
  cases (rule.judge answer).outcome state with
  | error fault => rfl
  | ok verdict => rfl

theorem remainder_conjunction_outcome (answer : Label → Criterion → Trial State Bool)
    (label : Label) (children : List (Rule Label Criterion)) (filled : children ≠ [])
    (state : State) :
    (remainder answer (.compound label .conjunction children)).outcome state =
      ((unsatisfied answer children).outcome state).map
        (narrow (.compound label .conjunction children) children) := by
  cases children with
  | nil => exact absurd rfl filled
  | cons child rest =>
      rw [remainder, Trial.outcome_bind_of_steady _ _ fun failing => Trial.steady_pure _]
      cases (unsatisfied answer (child :: rest)).outcome state with
      | error fault => rfl
      | ok failing => rfl

/-- A rule with a verdict has a remainder if the clauses of a conjunction have verdicts. -/
theorem remainder_of_answered (answer : Label → Criterion → Trial State Bool)
    (rule : Rule Label Criterion) (steady : rule.IsSteadyUnder answer) (state : State)
    (verdict : Bool) (judged : (rule.judge answer).outcome state = .ok verdict)
    (answered : ∀ clause ∈ rule.conjuncts,
      ∃ found, (clause.judge answer).outcome state = .ok found) :
    ∃ left, (rule.remainder answer).outcome state = .ok left := by
  have clauseSteady := conjuncts_steady answer rule steady
  rcases conjunction_or_whole State rule with ⟨label, children, rfl⟩ | ⟨-, whole, -⟩
  · have filled := filled_of_judged answer label .conjunction children state verdict judged
    rw [remainder_conjunction_outcome answer label children filled,
      unsatisfied_of_answered answer children clauseSteady state answered]
    exact ⟨_, rfl⟩
  · rw [whole answer, wholeRemainder_outcome, judged]
    exact ⟨_, rfl⟩

/-- The remainder of a conjunction fails as its first failing clause does. -/
theorem remainder_of_fault (answer : Label → Criterion → Trial State Bool)
    (rule : Rule Label Criterion) (steady : rule.IsSteadyUnder answer) (state : State)
    (front back : List (Rule Label Criterion)) (clause : Rule Label Criterion) (fault : Fault)
    (split : rule.conjuncts = front ++ clause :: back)
    (answered : ∀ other ∈ front, ∃ found, (other.judge answer).outcome state = .ok found)
    (failed : (clause.judge answer).outcome state = .error fault) :
    (rule.remainder answer).outcome state = .error fault := by
  have clauseSteady := conjuncts_steady answer rule steady
  rcases conjunction_or_whole State rule with ⟨label, children, rfl⟩ | ⟨none, -, -⟩
  · change children = _ at split
    subst split
    rw [remainder_conjunction_outcome answer label _ (by simp),
      unsatisfied_of_fault answer front back clause clauseSteady state fault answered failed]
    rfl
  · simp [none] at split

theorem remainder_steady (answer : Label → Criterion → Trial State Bool)
    (rule : Rule Label Criterion) (steady : rule.IsSteadyUnder answer) :
    (rule.remainder answer).IsSteady := by
  intro earlier later
  rcases conjunction_or_whole State rule with ⟨label, children, rfl⟩ | ⟨-, whole, -⟩
  · cases children with
    | nil => rfl
    | cons child rest =>
        have childSteady : ∀ other ∈ child :: rest, (other.judge answer).IsSteady :=
          fun other member =>
            judge_steady answer other (isSteadyUnder_part answer _ other steady member)
        rw [remainder_conjunction_outcome answer label _ (by simp),
          remainder_conjunction_outcome answer label _ (by simp),
          unsatisfied_steady answer _ childSteady earlier later]
  · rw [whole answer, wholeRemainder_outcome, wholeRemainder_outcome,
      judge_steady answer rule steady earlier later]

end Rule

end Eligibility
