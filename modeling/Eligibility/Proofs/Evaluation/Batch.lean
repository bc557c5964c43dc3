import Eligibility.Proofs.Evaluation.Verdict
import Mathlib.Data.List.Forall2

/-!
# Evaluations of several subjects

When the criteria answer from the subject alone, a batch reports on each subject as an evaluation
of that subject alone does, up to the first one that throws.  Each evaluation makes one call on the
logger.  The level decides which calls arrive in the sink, and nothing else.
-/

set_option autoImplicit false

namespace Eligibility

namespace Policy

def logTo (policy : Policy) (logger : Logger) : Policy :=
  { policy with logger }

end Policy

namespace Rule

section Single
variable {Label Criterion State : Type} (leafText : Criterion → String)
  (answer : Label → Criterion → Trial State Bool) (policy : Policy) (rule : Rule Label Criterion)

/-- What an evaluation answers and logs, apart from the state that it leaves. -/
def evaluation (state : State) : Logged (Report Label Criterion) :=
  ((rule.evaluate leafText answer policy).run state).1

theorem evaluation_eq (state : State) :
    rule.evaluation leafText answer policy state =
      match (rule.examine answer).outcome state with
      | .ok (satisfied, remainder) => reportVerdict leafText policy rule satisfied remainder
      | .error fault => reportFault leafText policy rule fault.caught := by
  rw [evaluation, evaluate, StateT.run_bind, Trial.outcome]
  rcases (rule.examine answer).run.run state with ⟨result, left⟩
  cases result with
  | error fault => rfl
  | ok examined => rfl

theorem evaluation_result (state : State) :
    (rule.evaluation leafText answer policy state).result =
      rule.evaluated leafText answer policy state :=
  rfl

theorem examine_steady (steady : rule.IsSteadyUnder answer) : (rule.examine answer).IsSteady := by
  intro earlier later
  rw [examine_outcome answer rule steady, examine_outcome answer rule steady,
    judge_steady answer rule steady earlier later,
    remainder_steady answer rule steady earlier later]

theorem evaluation_steady (steady : rule.IsSteadyUnder answer) (earlier later : State) :
    rule.evaluation leafText answer policy earlier =
      rule.evaluation leafText answer policy later := by
  rw [evaluation_eq, evaluation_eq, examine_steady answer rule steady earlier later]

/-! ## The call on the logger -/

def severityOf : Except Fault (Report Label Criterion) → Severity
  | .ok report => if report.fault.isSome then .warn else .debug
  | .error _ => .error

/-- The call that an evaluation makes: it is as serious as the way the evaluation ends, and the
level decides only whether it arrives in the sink. -/
structure IsCallOf (sink : Sink) (state : State) (call : LogEntry) : Prop where
  toSink : call.sink = sink
  severity : call.severity = severityOf (rule.evaluated leafText answer policy state)
  logged (level : LogLevel) :
    rule.evaluation leafText answer (policy.logTo ⟨level, sink⟩) state =
      ⟨if level.admits call.severity then [call] else [],
        rule.evaluated leafText answer policy state⟩

theorem evaluation_call (sink : Sink) (state : State) :
    ∃ call, rule.IsCallOf leafText answer policy sink state call := by
  -- the text and the context of the call are whatever the branch writes
  rcases examined : (rule.examine answer).outcome state with fault | ⟨satisfied, left⟩
  · cases throws : policy.throwOnError with
    | true =>
        refine ⟨⟨sink, .error, ?thrown, ?context⟩, rfl, ?severity, fun level => ?entries⟩
        case entries =>
          rw [evaluation_eq, evaluated_eq, examined]
          simp only [reportFault, Policy.logTo, throws, if_true]
          rfl
        case severity => simp [evaluated_eq, examined, reportFault, throws, severityOf]
    | false =>
        refine ⟨⟨sink, .warn, ?swallowed, ?about⟩, rfl, ?warned, fun level => ?logged⟩
        case logged =>
          rw [evaluation_eq, evaluated_eq, examined]
          simp only [reportFault, Policy.logTo, throws, Bool.false_eq_true, if_false]
          rfl
        case warned => simp [evaluated_eq, examined, reportFault, throws, severityOf]
  · refine ⟨⟨sink, .debug, ?message, ?details⟩, rfl, ?quiet, fun level => ?entry⟩
    case entry =>
      rw [evaluation_eq, evaluated_eq, examined]
      rfl
    case quiet => simp [evaluated_eq, examined, reportVerdict, severityOf]

theorem throws_of_evaluated_error (state : State) (fault : Fault)
    (thrown : rule.evaluated leafText answer policy state = .error fault) :
    policy.throwOnError = true := by
  by_contra reports
  rcases examined : (rule.examine answer).outcome state with caught | ⟨satisfied, left⟩
  · obtain ⟨report, evaluated, -⟩ := (evaluated_of_fault leafText answer policy rule state caught
      examined).2 (eq_false_of_ne_true reports)
    rw [evaluated] at thrown
    cases thrown
  · rw [evaluated_of_examined leafText answer policy rule state satisfied left examined] at thrown
    cases thrown

end Single

section Several
variable {Label Criterion State Subject : Type} (leafText : Criterion → String)
  (answer : Subject → Label → Criterion → Trial State Bool) (policy : Policy)
  (rule : Rule Label Criterion)

def batch (subjects : List Subject) (state : State) : Logged (List (Report Label Criterion)) :=
  ((rule.evaluateAll leafText answer policy subjects).run state).1

/-- The subjects up to the first one that a computation throws for. -/
def performed {Result : Type} (alone : Subject → Except Fault Result) :
    List Subject → List Subject
  | [] => []
  | subject :: rest =>
    match alone subject with
    | .error _ => [subject]
    | .ok _ => subject :: performed alone rest

theorem performed_cases {Result : Type} (alone : Subject → Except Fault Result)
    (subjects : List Subject) :
    (∃ results, subjects.mapM alone = .ok results ∧
        List.Forall₂ (fun subject result => alone subject = .ok result) subjects results ∧
        performed alone subjects = subjects) ∨
      ∃ front subject back fault, subjects = front ++ subject :: back ∧
        (∀ other ∈ front, ∃ result, alone other = .ok result) ∧
        alone subject = .error fault ∧ subjects.mapM alone = .error fault ∧
        performed alone subjects = front ++ [subject] := by
  induction subjects with
  | nil => exact .inl ⟨[], rfl, .nil, rfl⟩
  | cons first rest ih =>
      rw [List.mapM_cons, performed]
      cases found : alone first with
      | error fault => exact .inr ⟨[], first, rest, fault, rfl, by simp, found, rfl, rfl⟩
      | ok result =>
          rcases ih with ⟨results, all, pointwise, whole⟩ |
            ⟨front, subject, back, fault, split, before, throws, all, upTo⟩
          · exact .inl ⟨result :: results, by rw [all]; rfl, .cons found pointwise, by rw [whole]⟩
          · refine .inr ⟨first :: front, subject, back, fault, by rw [split]; rfl, ?_, throws,
              by rw [all]; rfl, by rw [upTo]; rfl⟩
            exact List.forall_mem_cons.mpr ⟨⟨result, found⟩, before⟩

/-! ## One subject after the other -/

theorem batch_cons (subject : Subject) (rest : List Subject) (state : State) :
    rule.batch leafText answer policy (subject :: rest) state =
      match (rule.evaluation leafText (answer subject) policy state).result with
      | .error fault =>
        ⟨(rule.evaluation leafText (answer subject) policy state).entries, .error fault⟩
      | .ok report =>
        let others := rule.batch leafText answer policy rest
          ((rule.evaluate leafText (answer subject) policy).run state).2
        ⟨(rule.evaluation leafText (answer subject) policy state).entries ++ others.entries,
          others.result.map (report :: ·)⟩ := by
  rw [batch, evaluateAll, StateT.run_bind, evaluation]
  rcases (rule.evaluate leafText (answer subject) policy).run state with ⟨⟨entries, result⟩, left⟩
  cases result with
  | error fault => rfl
  | ok report => rfl

theorem batch_eq (subjects : List Subject)
    (steady : ∀ subject ∈ subjects, rule.IsSteadyUnder (answer subject)) (earlier later : State) :
    rule.batch leafText answer policy subjects earlier =
      let alone := fun subject => rule.evaluation leafText (answer subject) policy later
      ⟨(performed (fun subject => (alone subject).result) subjects).flatMap
          fun subject => (alone subject).entries,
        subjects.mapM fun subject => (alone subject).result⟩ := by
  -- each evaluation starts from what the one before left, and none of them sees it
  induction subjects generalizing earlier with
  | nil => rfl
  | cons subject rest ih =>
      obtain ⟨subjectSteady, restSteady⟩ := List.forall_mem_cons.mp steady
      rw [batch_cons, evaluation_steady leafText (answer subject) policy rule subjectSteady earlier
        later]
      simp only [List.mapM_cons, performed]
      cases (rule.evaluation leafText (answer subject) policy later).result with
      | error fault =>
          rw [List.flatMap_singleton]
          rfl
      | ok report =>
          simp only [ih restSteady]
          rfl

/-! ## What reaches the sink -/

theorem flatMap_admitted (level : LogLevel) (call : Subject → LogEntry) (subjects : List Subject) :
    (subjects.flatMap fun subject =>
        if level.admits (call subject).severity then [call subject] else []) =
      (subjects.map call).filter fun entry => level.admits entry.severity := by
  induction subjects with
  | nil => rfl
  | cons subject rest ih =>
      rw [List.flatMap_cons, ih, List.map_cons, List.filter_cons]
      split
      · rfl
      · rfl

theorem batch_logTo (subjects : List Subject)
    (steady : ∀ subject ∈ subjects, rule.IsSteadyUnder (answer subject)) (sink : Sink)
    (call : Subject → LogEntry) (earlier later : State)
    (calls : ∀ subject,
      rule.IsCallOf leafText (answer subject) policy sink later (call subject))
    (level : LogLevel) :
    rule.batch leafText answer (policy.logTo ⟨level, sink⟩) subjects earlier =
      ⟨((performed (fun subject => rule.evaluated leafText (answer subject) policy later)
          subjects).map call).filter fun entry => level.admits entry.severity,
        (rule.batch leafText answer policy subjects earlier).result⟩ := by
  rw [batch_eq leafText answer _ rule subjects steady earlier later,
    batch_eq leafText answer policy rule subjects steady earlier later]
  simp only [(calls _).logged, evaluation_result, flatMap_admitted]

/-- A batch reports on every subject as an evaluation of it alone does, or throws what the first
evaluation that throws does.  Every evaluation that is performed makes one call on the logger, and
the level only selects which of the calls reach the sink. -/
theorem batch_pointwise_and_logged (subjects : List Subject)
    (steady : ∀ subject ∈ subjects, rule.IsSteadyUnder (answer subject)) (earlier later : State) :
    ∃ reached : List Subject,
      ((∃ reports, (rule.batch leafText answer policy subjects earlier).result = .ok reports ∧
          List.Forall₂ (fun subject report =>
            rule.evaluated leafText (answer subject) policy later = .ok report) subjects reports ∧
          reached = subjects) ∨
        (policy.throwOnError = true ∧ ∃ front subject back fault,
          subjects = front ++ subject :: back ∧
          (∀ other ∈ front, ∃ report,
            rule.evaluated leafText (answer other) policy later = .ok report) ∧
          rule.evaluated leafText (answer subject) policy later = .error fault ∧
          (rule.batch leafText answer policy subjects earlier).result = .error fault ∧
          reached = front ++ [subject])) ∧
      ∀ sink, ∃ calls : List LogEntry,
        List.Forall₂ (fun subject => rule.IsCallOf leafText (answer subject) policy sink later)
          reached calls ∧
        (∀ level, rule.batch leafText answer (policy.logTo ⟨level, sink⟩) subjects earlier =
          ⟨calls.filter fun call => level.admits call.severity,
            (rule.batch leafText answer policy subjects earlier).result⟩) ∧
        (rule.batch leafText answer (policy.logTo ⟨.atLeast .debug, sink⟩) subjects
          earlier).entries = calls ∧
        (rule.batch leafText answer (policy.logTo ⟨.silent, sink⟩) subjects
          earlier).entries = [] := by
  have whole : (rule.batch leafText answer policy subjects earlier).result =
      subjects.mapM fun subject => rule.evaluated leafText (answer subject) policy later := by
    rw [batch_eq leafText answer policy rule subjects steady earlier later]
    rfl
  refine ⟨performed (fun subject => rule.evaluated leafText (answer subject) policy later)
    subjects, ?_, fun sink => ?_⟩
  · rw [whole]
    rcases performed_cases
      (fun subject => rule.evaluated leafText (answer subject) policy later) subjects with
      ⟨reports, all, pointwise, upTo⟩ | ⟨front, subject, back, fault, split, before, thrown, rest⟩
    · exact .inl ⟨reports, all, pointwise, upTo⟩
    · have throws := throws_of_evaluated_error leafText (answer subject) policy rule later fault
        thrown
      exact .inr ⟨throws, front, subject, back, fault, split, before, thrown, rest⟩
  · choose call calls using fun subject =>
      evaluation_call leafText (answer subject) policy rule sink later
    have filtered :=
      batch_logTo leafText answer policy rule subjects steady sink call earlier later calls
    refine ⟨_, List.forall₂_map_right_iff.mpr (List.forall₂_same.mpr fun subject _ =>
      calls subject), filtered, ?_, ?_⟩
    · rw [filtered, List.filter_eq_self]
      intro entry _
      cases entry.severity <;> rfl
    · rw [filtered, List.filter_eq_nil_iff]
      intro entry _
      exact Bool.false_ne_true

end Several

def flagOrUnfinished : Rule NodeId Criterion :=
  .compound 2 .disjunction [.leaf 0 (.flagged "a"), .leaf 1 .unfinished]

def flagSet : Subject :=
  .plain [("a", .boolean true)]

def flagUnset : Subject :=
  .plain []

theorem flagOrUnfinished_steady (subject : Subject) :
    flagOrUnfinished.IsSteadyUnder (Criterion.answer subject) :=
  flagOrUnfinished.isSteadyUnder_of_no_script subject rfl

theorem only_unset_flag_throws (front back : List Subject) (subject : Subject) (fault : Fault)
    (split : [flagSet, flagUnset, flagSet] = front ++ subject :: back)
    (before : ∀ other ∈ front, ∃ report, flagOrUnfinished.evaluated Criterion.text
      (Criterion.answer other) ⟨true, false, .console⟩ [] = .ok report)
    (thrown : flagOrUnfinished.evaluated Criterion.text (Criterion.answer subject)
      ⟨true, false, .console⟩ [] = .error fault) :
    front = [flagSet] ∧ subject = flagUnset := by
  rcases front with _ | ⟨first, _ | ⟨second, others⟩⟩
  · cases split
    cases thrown
  · cases split
    exact ⟨rfl, rfl⟩
  · simp only [List.cons_append, List.cons.injEq] at split
    obtain ⟨report, evaluated⟩ := before second (by simp)
    rw [← split.2.1] at evaluated
    cases evaluated

/-- The second of three subjects throws.  The sink receives one entry about the first subject and
one about the second, and only the latter when the level is `warn`. -/
theorem batch_stops_at_unset_flag :
    (∀ subject ∈ [flagSet, flagUnset, flagSet],
      flagOrUnfinished.IsSteadyUnder (Criterion.answer subject)) ∧
    ∃ fault made thrown,
      (flagOrUnfinished.batch Criterion.text Criterion.answer ⟨true, false, .console⟩
        [flagSet, flagUnset, flagSet] []).result = .error fault ∧
      made.severity = .debug ∧ thrown.severity = .error ∧
      (flagOrUnfinished.batch Criterion.text Criterion.answer
        ⟨true, false, ⟨.atLeast .debug, .recorder⟩⟩ [flagSet, flagUnset, flagSet] []).entries =
          [made, thrown] ∧
      (flagOrUnfinished.batch Criterion.text Criterion.answer
        ⟨true, false, ⟨.atLeast .warn, .recorder⟩⟩ [flagSet, flagUnset, flagSet] []).entries =
          [thrown] := by
  have steady : ∀ subject ∈ [flagSet, flagUnset, flagSet],
      flagOrUnfinished.IsSteadyUnder (Criterion.answer subject) :=
    fun subject _ => flagOrUnfinished_steady subject
  obtain ⟨reached, results, logs⟩ := batch_pointwise_and_logged Criterion.text Criterion.answer
    ⟨true, false, .console⟩ flagOrUnfinished [flagSet, flagUnset, flagSet] steady [] []
  rcases results with ⟨reports, -, pointwise, -⟩ |
    ⟨-, front, subject, back, fault, split, before, thrown, result, rfl⟩
  · obtain _ | ⟨-, _ | ⟨unset, -⟩⟩ := pointwise
    cases unset
  · obtain ⟨rfl, rfl⟩ := only_unset_flag_throws front back subject fault split before thrown
    obtain ⟨calls, made, filtered, all, -⟩ := logs .recorder
    obtain _ | ⟨first, _ | ⟨second, ⟨⟩⟩⟩ := made
    have debug := first.severity
    have error := second.severity
    refine ⟨steady, fault, _, _, result, debug, error, all, ?_⟩
    have warned := congrArg Logged.entries (filtered (.atLeast .warn))
    refine warned.trans ?_
    simp only [List.filter_cons, debug, error]
    rfl

end Rule

end Eligibility
