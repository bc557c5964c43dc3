import Eligibility.Proofs.Evaluation.Failures
import Eligibility.Proofs.Remainder.Agreement

/-!
# Coherent reports

The parts of a report fit together.  It is satisfied when nothing is left of the rule, and then, and
only then, no failures are listed: what is left of a rule is not satisfied, so it is no conjunction
without clauses.  A report with a fault blames the rule as a whole.
-/

set_option autoImplicit false

namespace Eligibility

namespace Rule

section Reports
variable {Label Criterion State : Type}

/-! ## What is listed of a remainder -/

theorem clauses_of_conjunction (left : Remainder Label Criterion) (root label : Label)
    (children : List (Rule Label Criterion))
    (isConjunction : left.toRule root = .compound label .conjunction children) :
    left.clauses = children := by
  cases left with
  | existing rule =>
      change rule = _ at isConjunction
      rw [isConjunction]
      rfl
  | narrowed clauses =>
      cases isConjunction
      rfl

theorem clauses_of_other (left : Remainder Label Criterion) (root : Label)
    (noConjunction : ∀ label children, left.toRule root ≠ .compound label .conjunction children) :
    left.clauses = [left.toRule root] := by
  cases left with
  | existing rule =>
      rcases conjunction_or_whole Unit rule with ⟨label, children, same⟩ | ⟨-, -, alone⟩
      · exact absurd same (noConjunction label children)
      · exact alone
  | narrowed clauses => exact absurd rfl (noConjunction root clauses)

/-- A conjunction that is not satisfied has clauses, so something is listed of every remainder. -/
theorem clauses_ne_nil_of_unsatisfied (answer : Label → Criterion → Trial State Bool)
    (left : Remainder Label Criterion) (state : State) (root : Label)
    (unsatisfied : ((left.toRule root).judge answer).outcome state = .ok false) :
    left.clauses ≠ [] := by
  by_cases isConjunction :
      ∃ label children, left.toRule root = .compound label .conjunction children
  · obtain ⟨label, children, same⟩ := isConjunction
    rw [clauses_of_conjunction left root label children same]
    rw [same] at unsatisfied
    exact filled_of_judged answer label .conjunction children state false unsatisfied
  · have noConjunction : ∀ label children,
        left.toRule root ≠ .compound label .conjunction children :=
      fun label children same => isConjunction ⟨label, children, same⟩
    rw [clauses_of_other left root noConjunction]
    exact List.cons_ne_nil _ _

theorem failures_eq_nil_iff (leafText : Criterion → String)
    (left : Option (Remainder Label Criterion))
    (listed : ∀ found, left = some found → found.clauses ≠ []) :
    left = none ↔ failures leafText left = [] := by
  cases left with
  | none => exact iff_of_true rfl rfl
  | some found =>
      refine iff_of_false (by simp) ?_
      simpa [failures] using listed found rfl

theorem reason_of_failure (leafText : Criterion → String)
    (left : Option (Remainder Label Criterion)) :
    ∀ failure ∈ failures leafText left, failure.reason = failure.rule.toText leafText := by
  cases left with
  | none => simp [failures]
  | some found =>
      intro failure member
      obtain ⟨clause, -, rfl⟩ := List.mem_map.mp member
      rfl

/-- The clauses of a conjunction are listed, and any other rule by itself. -/
theorem failures_by_conjunction (leafText : Criterion → String)
    (left : Option (Remainder Label Criterion)) :
    ∀ found, left = some found → ∀ root,
      (∀ label children, found.toRule root = .compound label .conjunction children →
        (failures leafText left).map Failure.rule = children) ∧
      ((∀ label children, found.toRule root ≠ .compound label .conjunction children) →
        (failures leafText left).map Failure.rule = [found.toRule root]) := by
  rintro found rfl root
  have listed : (failures leafText (some found)).map Failure.rule = found.clauses := by
    rw [failures_rules]
    rfl
  rw [listed]
  exact ⟨clauses_of_conjunction found root, clauses_of_other found root⟩

/-! ## Faults -/

section Faults
variable (leafText : Criterion → String) (policy : Policy) (rule : Rule Label Criterion)
  (fault : Fault)

theorem reportFault_result_of_throws (throws : policy.throwOnError = true) :
    (reportFault leafText policy rule fault).result = .error fault := by
  simp [reportFault, throws]

theorem reportFault_result_of_reports (reports : policy.throwOnError = false) :
    (reportFault leafText policy rule fault).result =
      .ok { satisfied := policy.defaultOnError
            remainder := if policy.defaultOnError then none else some (.existing rule)
            failures := if policy.defaultOnError then [] else [⟨rule, fault.message⟩]
            fault := some fault } := by
  simp [reportFault, reports]

end Faults

/-! ## The two passes -/

section Passes
variable (answer : Label → Criterion → Trial State Bool) (rule : Rule Label Criterion)
  (steady : rule.IsSteadyUnder answer) (state : State)

include steady

/-- An evaluation finds the verdict and the remainder if the remainder has an outcome, and the fault
of the remainder otherwise. -/
theorem examine_of_remainder :
    (∃ verdict left, (rule.judge answer).outcome state = .ok verdict ∧
        (rule.remainder answer).outcome state = .ok left ∧
        (rule.examine answer).outcome state = .ok (verdict, left) ∧
        (verdict = true ↔ left = none) ∧ ∀ found, left = some found → found.clauses ≠ []) ∨
      ∃ fault, (rule.remainder answer).outcome state = .error fault ∧
        (rule.examine answer).outcome state = .error fault := by
  rw [examine_outcome answer rule steady]
  have agreement := accord answer rule steady state
  generalize (rule.judge answer).outcome state = verdict at agreement ⊢
  generalize (rule.remainder answer).outcome state = remains at agreement ⊢
  cases agreement with
  | satisfied => exact .inl ⟨true, none, rfl, rfl, rfl, by simp, by simp⟩
  | failed fault => exact .inr ⟨fault, rfl, rfl⟩
  | explained left fromRule unsatisfied =>
      refine .inl ⟨false, some left, rfl, rfl, rfl, by simp, ?_⟩
      rintro found ⟨⟩
      exact clauses_ne_nil_of_unsatisfied answer left state rule.label (unsatisfied rule.label)
  | settledBefore _ _ _ _ _ _ fault => exact .inr ⟨fault, rfl, rfl⟩

end Passes

/-- A report is satisfied if and only if nothing is left, and if and only if no failure is listed.
Without a fault it gives the verdict and the remainder, and lists the clauses of a conjunction or
else what is left itself.  With a fault, which only some policies report, it gives the verdict of
the policy, and blames the whole rule if that verdict is that it is not satisfied. -/
theorem reports_are_coherent (leafText : Criterion → String)
    (answer : Label → Criterion → Trial State Bool) (policy : Policy)
    (rule : Rule Label Criterion) (steady : rule.IsSteadyUnder answer) (earlier later : State) :
    ((∃ report, rule.evaluated leafText answer policy earlier = .ok report) ↔
      policy.throwOnError = false ∨ ∃ left, (rule.remainder answer).outcome later = .ok left) ∧
    ∀ report, rule.evaluated leafText answer policy earlier = .ok report →
      (report.satisfied = true ↔ report.remainder = none) ∧
      (report.remainder = none ↔ report.failures = []) ∧
      (report.fault = none →
        (rule.judge answer).outcome later = .ok report.satisfied ∧
        (rule.remainder answer).outcome later = .ok report.remainder ∧
        (∀ failure ∈ report.failures, failure.reason = failure.rule.toText leafText) ∧
        ∀ left, report.remainder = some left → ∀ root,
          (∀ label children, left.toRule root = .compound label .conjunction children →
            report.failures.map Failure.rule = children) ∧
          ((∀ label children, left.toRule root ≠ .compound label .conjunction children) →
            report.failures.map Failure.rule = [left.toRule root])) ∧
      ∀ fault, report.fault = some fault →
        policy.throwOnError = false ∧
        (∃ cause, (rule.remainder answer).outcome later = .error cause ∧ fault = cause.caught) ∧
        report.satisfied = policy.defaultOnError ∧
        (policy.defaultOnError = false →
          report.remainder = some (.existing rule) ∧
          report.failures = [⟨rule, fault.message⟩]) := by
  rw [judge_steady answer rule steady later earlier,
    remainder_steady answer rule steady later earlier]
  rcases examine_of_remainder answer rule steady earlier with
    ⟨verdict, left, judged, remains, examined, whole, listed⟩ | ⟨cause, remains, examined⟩
  · have evaluated :=
      evaluated_of_examined leafText answer policy rule earlier verdict left examined
    rw [evaluated, remains]
    refine ⟨⟨fun _ => .inr ⟨left, rfl⟩, fun _ => ⟨_, rfl⟩⟩, ?_⟩
    rintro report ⟨⟩
    exact ⟨whole, failures_eq_nil_iff leafText left listed, fun _ =>
      ⟨judged, rfl, reason_of_failure leafText left, failures_by_conjunction leafText left⟩,
      fun fault someFault => by cases someFault⟩
  · rw [evaluated_eq, examined, remains]
    dsimp only
    cases throws : policy.throwOnError with
    | true =>
        rw [reportFault_result_of_throws leafText policy rule cause.caught throws]
        simp
    | false =>
        rw [reportFault_result_of_reports leafText policy rule cause.caught throws]
        refine ⟨⟨fun _ => .inl rfl, fun _ => ⟨_, rfl⟩⟩, ?_⟩
        rintro report ⟨⟩
        refine ⟨?_, ?_, fun noFault => (by cases noFault), ?_⟩
        · cases policy.defaultOnError <;> simp
        · cases policy.defaultOnError <;> simp
        · rintro fault ⟨⟩
          exact ⟨rfl, ⟨cause, rfl, rfl⟩, rfl, fun rejects => by simp [rejects]⟩

end Reports

def threeFlags : Rule NodeId Criterion :=
  .compound 3 .conjunction
    [.leaf 0 (.flagged "a"), .leaf 1 (.flagged "b"), .leaf 2 (.flagged "c")]

theorem threeFlags_steady (subject : Subject) :
    threeFlags.IsSteadyUnder (Criterion.answer subject) :=
  threeFlags.isSteadyUnder_of_no_script subject rfl

/-- The two flags that are not set are listed.  A conjunction whose second clause fails is blamed as
a whole. -/
theorem unset_flags_listed_and_whole_rule_blamed :
    (∃ report, threeFlags.evaluated Criterion.text
          (Criterion.answer (.plain [("a", .boolean true)])) ⟨true, false, .console⟩ [] =
        .ok report ∧
      report.fault = none ∧
      (threeFlags.judge (Criterion.answer (.plain [("a", .boolean true)]))).outcome [] =
        .ok report.satisfied ∧
      report.failures.map Failure.rule = [.leaf 1 (.flagged "b"), .leaf 2 (.flagged "c")]) ∧
    ∃ report, settledBeforeFault.evaluated Criterion.text (Criterion.answer (.plain []))
          ⟨false, false, .console⟩ [] = .ok report ∧
      report.satisfied = false ∧
      report.remainder = some (.existing settledBeforeFault) ∧
      report.failures =
        [⟨settledBeforeFault, "Incomplete does not implement isSatisfiedBy()"⟩] := by
  constructor
  · obtain ⟨-, coherent⟩ := reports_are_coherent Criterion.text
      (Criterion.answer (.plain [("a", .boolean true)])) ⟨true, false, .console⟩ threeFlags
      (threeFlags_steady _) [] []
    obtain ⟨-, -, faultless, -⟩ := coherent _ rfl
    obtain ⟨judged, -, -, listed⟩ := faultless rfl
    exact ⟨_, rfl, rfl, judged, (listed _ rfl 4).1 4 _ rfl⟩
  · obtain ⟨-, coherent⟩ := reports_are_coherent Criterion.text
      (Criterion.answer (.plain [])) ⟨false, false, .console⟩ settledBeforeFault
      (settledBeforeFault_steady _) [] []
    obtain ⟨-, -, -, faulty⟩ := coherent _ rfl
    obtain ⟨-, -, rejected, blamed⟩ := faulty _ rfl
    obtain ⟨whole, listed⟩ := blamed rfl
    exact ⟨_, rfl, rejected, whole, listed⟩

end Rule

end Eligibility
