import Eligibility.Proofs.Rule.Criteria

/-!
# Evaluations and verdicts

An evaluation asks for the verdict and then, if the rule is not satisfied, for the remainder.  The
verdict of a conjunction may be settled before a clause that fails, the remainder asks every
clause.  So an evaluation reports the verdict exactly when no clause of a conjunction fails, and
otherwise treats the fault of the first failing clause as its policy says.
-/

set_option autoImplicit false

namespace Eligibility

namespace Rule

section Reports
variable {Label Criterion State : Type}

/-- What an evaluation answers, apart from its log entry and the state that it leaves. -/
def evaluated (leafText : Criterion → String) (answer : Label → Criterion → Trial State Bool)
    (policy : Policy) (rule : Rule Label Criterion) (state : State) :
    Except Fault (Report Label Criterion) :=
  ((rule.evaluate leafText answer policy).run state).1.result

theorem evaluated_eq (leafText : Criterion → String)
    (answer : Label → Criterion → Trial State Bool) (policy : Policy)
    (rule : Rule Label Criterion) (state : State) :
    rule.evaluated leafText answer policy state =
      match (rule.examine answer).outcome state with
      | .ok (satisfied, remainder) =>
        (reportVerdict leafText policy rule satisfied remainder).result
      | .error fault => (reportFault leafText policy rule fault.caught).result := by
  rw [evaluated, evaluate, StateT.run_bind, Trial.outcome]
  rcases (rule.examine answer).run.run state with ⟨result, left⟩
  cases result with
  | error fault => rfl
  | ok examined => rfl

/-! ## Both passes -/

theorem examine_outcome (answer : Label → Criterion → Trial State Bool)
    (rule : Rule Label Criterion) (steady : rule.IsSteadyUnder answer) (state : State) :
    (rule.examine answer).outcome state =
      ((rule.judge answer).outcome state).bind fun satisfied =>
        if satisfied then
          .ok (true, none)
        else
          ((rule.remainder answer).outcome state).map (Prod.mk false) := by
  have remainderSteady := remainder_steady answer rule steady
  have restSteady : ∀ left, Trial.IsSteady (pure (false, left) : Trial State
      (Bool × Option (Remainder Label Criterion))) := fun left => Trial.steady_pure _
  rw [examine, Trial.outcome_bind_of_steady]
  · congr 1
    funext satisfied
    cases satisfied with
    | true => rfl
    | false =>
        simp only [Bool.false_eq_true, if_false]
        rw [Trial.outcome_bind_of_steady _ _ restSteady]
        cases (rule.remainder answer).outcome state with
        | error fault => rfl
        | ok left => rfl
  · intro satisfied
    split
    · exact Trial.steady_pure _
    · exact Trial.steady_bind _ _ remainderSteady restSteady

theorem evaluated_of_examined (leafText : Criterion → String)
    (answer : Label → Criterion → Trial State Bool) (policy : Policy)
    (rule : Rule Label Criterion) (state : State) (satisfied : Bool)
    (left : Option (Remainder Label Criterion))
    (examined : (rule.examine answer).outcome state = .ok (satisfied, left)) :
    rule.evaluated leafText answer policy state =
      .ok { satisfied, remainder := left, failures := failures leafText left, fault := none } := by
  rw [evaluated_eq, examined]
  rfl

theorem evaluated_of_fault (leafText : Criterion → String)
    (answer : Label → Criterion → Trial State Bool) (policy : Policy)
    (rule : Rule Label Criterion) (state : State) (fault : Fault)
    (failed : (rule.examine answer).outcome state = .error fault) :
    (policy.throwOnError = true →
      rule.evaluated leafText answer policy state = .error fault.caught) ∧
    (policy.throwOnError = false →
      ∃ report, rule.evaluated leafText answer policy state = .ok report ∧
        report.satisfied = policy.defaultOnError ∧ report.fault = some fault.caught) := by
  rw [evaluated_eq, failed]
  constructor
  · intro throws
    simp [reportFault, throws]
  · intro reports
    simp [reportFault, reports]

/-! ## The verdict that is reported -/

theorem examine_of_answered (answer : Label → Criterion → Trial State Bool)
    (rule : Rule Label Criterion) (steady : rule.IsSteadyUnder answer) (state : State)
    (verdict : Bool) (judged : (rule.judge answer).outcome state = .ok verdict)
    (answered : ∀ clause ∈ rule.conjuncts,
      ∃ found, (clause.judge answer).outcome state = .ok found) :
    ∃ left, (rule.examine answer).outcome state = .ok (verdict, left) := by
  obtain ⟨left, remains⟩ := remainder_of_answered answer rule steady state verdict judged answered
  rw [examine_outcome answer rule steady, judged]
  cases verdict with
  | true => exact ⟨none, rfl⟩
  | false => exact ⟨left, by simp [Except.bind, Except.map, remains]⟩

theorem examine_of_fault (answer : Label → Criterion → Trial State Bool)
    (rule : Rule Label Criterion) (steady : rule.IsSteadyUnder answer) (state : State)
    (verdict : Bool) (judged : (rule.judge answer).outcome state = .ok verdict)
    (front back : List (Rule Label Criterion)) (clause : Rule Label Criterion) (fault : Fault)
    (split : rule.conjuncts = front ++ clause :: back)
    (answered : ∀ other ∈ front, ∃ found, (other.judge answer).outcome state = .ok found)
    (failed : (clause.judge answer).outcome state = .error fault) :
    verdict = false ∧ (rule.examine answer).outcome state = .error fault := by
  cases verdict with
  | true =>
      have member : clause ∈ rule.conjuncts := by simp [split]
      have satisfied := conjuncts_satisfied answer rule steady state judged clause member
      rw [failed] at satisfied
      cases satisfied
  | false =>
      have remains := remainder_of_fault answer rule steady state front back clause fault split
        answered failed
      rw [examine_outcome answer rule steady, judged]
      simp [Except.bind, Except.map, remains]

/-- For a rule that has a verdict, an evaluation reports that verdict and no fault if and only if
no clause of a conjunction fails.  Otherwise an unsatisfied clause stands before the first failing
one, and its fault is thrown again or reported with the verdict of the policy. -/
theorem verdict_reported_iff_no_clause_fails (leafText : Criterion → String)
    (answer : Label → Criterion → Trial State Bool) (policy : Policy)
    (rule : Rule Label Criterion) (steady : rule.IsSteadyUnder answer) (earlier later : State)
    (verdict : Bool) (judged : (rule.judge answer).outcome earlier = .ok verdict) :
    ((∃ report, rule.evaluated leafText answer policy later = .ok report ∧
        report.satisfied = verdict ∧ report.fault = none) ↔
      ∀ clause ∈ rule.conjuncts, ∃ found, (clause.judge answer).outcome later = .ok found) ∧
    ∀ front clause back fault, rule.conjuncts = front ++ clause :: back →
      (∀ other ∈ front, ∃ found, (other.judge answer).outcome later = .ok found) →
      (clause.judge answer).outcome later = .error fault →
      verdict = false ∧
      (∃ other ∈ front, (other.judge answer).outcome later = .ok false) ∧
      (policy.throwOnError = true →
        rule.evaluated leafText answer policy later = .error fault.caught) ∧
      (policy.throwOnError = false →
        ∃ report, rule.evaluated leafText answer policy later = .ok report ∧
          report.satisfied = policy.defaultOnError ∧ report.fault = some fault.caught) := by
  rw [judge_steady answer rule steady earlier later] at judged
  refine ⟨⟨?_, ?_⟩, ?_⟩
  · rintro ⟨report, reported, -, faultless⟩
    rcases answered_or_first_fault answer rule.conjuncts later with
      answered | ⟨front, clause, back, fault, split, answered, failed⟩
    · exact answered
    · -- the fault is thrown or reported, so there is no report without one
      obtain ⟨-, examined⟩ := examine_of_fault answer rule steady later verdict judged front back
        clause fault split answered failed
      obtain ⟨throws, reports⟩ :=
        evaluated_of_fault leafText answer policy rule later fault examined
      cases policyThrows : policy.throwOnError with
      | true =>
          rw [throws policyThrows] at reported
          cases reported
      | false =>
          obtain ⟨other, otherReported, -, otherFault⟩ := reports policyThrows
          rw [otherReported] at reported
          cases reported
          rw [otherFault] at faultless
          cases faultless
  · intro answered
    obtain ⟨left, examined⟩ := examine_of_answered answer rule steady later verdict judged answered
    exact ⟨_, evaluated_of_examined leafText answer policy rule later verdict left examined,
      rfl, rfl⟩
  · intro front clause back fault split answered failed
    obtain ⟨rejected, examined⟩ := examine_of_fault answer rule steady later verdict judged front
      back clause fault split answered failed
    exact ⟨rejected,
      unsatisfied_before_fault answer rule steady later verdict judged front back clause fault
        split answered failed,
      evaluated_of_fault leafText answer policy rule later fault examined⟩

end Reports

def settledBeforeFault : Rule NodeId Criterion :=
  .compound 2 .conjunction [.constant 0 false, .leaf 1 .unfinished]

theorem settledBeforeFault_steady (subject : Subject) :
    settledBeforeFault.IsSteadyUnder (Criterion.answer subject) :=
  settledBeforeFault.isSteadyUnder_of_no_script subject rfl

theorem settledBeforeFault_fault_reported :
    settledBeforeFault.IsSteadyUnder (Criterion.answer (.plain [])) ∧
      (settledBeforeFault.judge (Criterion.answer (.plain []))).outcome [] = .ok false ∧
      ∃ report, settledBeforeFault.evaluated Criterion.text (Criterion.answer (.plain []))
          ⟨false, false, .console⟩ [] = .ok report ∧
        report.satisfied = false ∧
        report.fault = some (.unimplemented "Incomplete" "isSatisfiedBy") := by
  have steady := settledBeforeFault_steady (.plain [])
  have reported := (verdict_reported_iff_no_clause_fails Criterion.text
    (Criterion.answer (.plain [])) ⟨false, false, .console⟩ settledBeforeFault steady [] [] false
    rfl).2 [.constant 0 false] (.leaf 1 .unfinished) [] _ rfl
    (fun other member => ⟨false, by rw [List.mem_singleton.mp member]; rfl⟩) rfl
  exact ⟨steady, rfl, reported.2.2.2 rfl⟩

/-- With another policy, the same unsatisfied rule is reported to be satisfied. -/
theorem unsatisfied_rule_reported_satisfied :
    settledBeforeFault.IsSteadyUnder (Criterion.answer (.plain [])) ∧
      (settledBeforeFault.judge (Criterion.answer (.plain []))).outcome [] = .ok false ∧
      ∃ report, settledBeforeFault.evaluated Criterion.text (Criterion.answer (.plain []))
          ⟨false, true, .console⟩ [] = .ok report ∧
        report.satisfied = true ∧
        report.fault = some (.unimplemented "Incomplete" "isSatisfiedBy") :=
  ⟨settledBeforeFault_steady (.plain []), rfl, _, rfl, rfl, rfl⟩

end Rule

end Eligibility
