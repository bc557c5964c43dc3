import Eligibility.Proofs.Basic
import Eligibility.Proofs.Candidate.Readings
import Eligibility.Proofs.Evaluation.Failures
import Eligibility.Workbench.Expression
import Mathlib.Logic.Basic
import Mathlib.Tactic.ByContra

/-!
# Validated employees

The check at the boundary reads each of the four fields as the criteria read it.  So a record
passes exactly when no criterion over employees fails on it, and no rule over such criteria fails
on a record that has passed.  A record that does not pass is rejected with the faults of its fields,
unless one of them holds what cannot be put into words.
-/

set_option autoImplicit false

namespace Eligibility

def Instant.epoch : Instant :=
  ⟨0, by decide⟩

/-! ## The criteria over employees -/

def CriterionKind.isOverEmployees : CriterionKind → Bool
  | .department | .knownDepartment _ | .role | .knownRole _ => true
  | .salaryAbove | .salaryBelow | .salaryWithin => true
  | .tenureBelow | .tenureAtLeast | .tenureBetween => true
  | .fieldMatch | .flagged | .unfinished => false

namespace Criterion

/-- The criterion is made of some arguments as one over employees. -/
def IsOverEmployees (criterion : Criterion) : Prop :=
  ∃ kind clock operands, CriterionKind.isOverEmployees kind = true ∧
    CriterionKind.make clock operands kind = .ok criterion

def employeeField? : Criterion → Option EmployeeField
  | .field (.ofDepartment _) | .field (.ofKnownDepartment _) => some .department
  | .field (.ofRole _) | .field (.ofKnownRole _) => some .role
  | .salary _ => some .grossSalary
  | .tenure _ => some .admissionDate
  | .field (.ofField ..) | .flagged _ | .unfinished | .scripted _ => none

theorem reads_field_of_overEmployees (criterion : Criterion)
    (overEmployees : criterion.IsOverEmployees) :
    ∃ field, criterion.employeeField? = some field := by
  obtain ⟨kind, clock, operands, isOver, made⟩ := overEmployees
  have fieldOfText (wrap : String → FieldMatch) (field : EmployeeField)
      (reads : ∀ text, (Criterion.field (wrap text)).employeeField? = some field) :
      (∃ text, criterion = .field (wrap text)) → ∃ field, criterion.employeeField? = some field := by
    rintro ⟨text, rfl⟩
    exact ⟨field, reads text⟩
  have fieldOfSalary : (∃ rule, criterion = .salary rule) →
      ∃ field, criterion.employeeField? = some field := by
    rintro ⟨rule, rfl⟩
    exact ⟨.grossSalary, rfl⟩
  have fieldOfTenure : (∃ rule, criterion = .tenure rule) →
      ∃ field, criterion.employeeField? = some field := by
    rintro ⟨rule, rfl⟩
    exact ⟨.admissionDate, rfl⟩
  cases kind with
  | fieldMatch | flagged | unfinished => cases isOver
  | department =>
      simp only [CriterionKind.make] at made
      exact fieldOfText .ofDepartment .department (fun _ => rfl)
        (eq_of_map_ok _ (.field ∘ .ofDepartment) criterion made)
  | role =>
      simp only [CriterionKind.make] at made
      exact fieldOfText .ofRole .role (fun _ => rfl)
        (eq_of_map_ok _ (.field ∘ .ofRole) criterion made)
  | knownDepartment known =>
      cases made
      exact ⟨.department, rfl⟩
  | knownRole known =>
      cases made
      exact ⟨.role, rfl⟩
  | salaryAbove | salaryBelow | salaryWithin =>
      simp only [CriterionKind.make] at made
      exact fieldOfSalary (eq_of_map_ok _ .salary criterion made)
  | tenureBelow | tenureAtLeast | tenureBetween =>
      simp only [CriterionKind.make] at made
      exact fieldOfTenure (eq_of_map_ok _ .tenure criterion made)

/-- Each field is read by some criterion over employees. -/
theorem overEmployees_of_field (field : EmployeeField) :
    ∃ criterion : Criterion, criterion.IsOverEmployees ∧
      criterion.employeeField? = some field := by
  cases field with
  | department =>
      exact ⟨.field (.ofKnownDepartment .informationTechnology),
        ⟨.knownDepartment .informationTechnology, .epoch, [], rfl, rfl⟩, rfl⟩
  | role =>
      exact ⟨.field (.ofKnownRole .trainee), ⟨.knownRole .trainee, .epoch, [], rfl, rfl⟩, rfl⟩
  | grossSalary =>
      exact ⟨.salary ⟨.above SalaryScale.defaultBase, .standard⟩,
        ⟨.salaryAbove, .epoch, [.plain (.decimal (.finite SalaryScale.defaultBase))], rfl, rfl⟩,
        rfl⟩
  | admissionDate =>
      exact ⟨.tenure ⟨.atLeast (.finite 0), .epoch⟩,
        ⟨.tenureAtLeast, .epoch, [.plain (.number (.finite 0))], rfl, rfl⟩, rfl⟩

/-! ## Reading the field -/

/-- Such a criterion reads its field as the check does, and puts what it finds to a test. -/
theorem judge_reads_field (criterion : Criterion) (field : EmployeeField)
    (reads : criterion.employeeField? = some field) (subject : Subject) :
    ∃ (Kind : Type) (reading : Except Fault Kind) (test : Kind → Bool),
      (∀ calls, criterion.judge subject calls = do return test (← reading)) ∧
      field.fault? subject.candidate = Fault.of? reading := by
  cases criterion with
  | flagged key => cases reads
  | unfinished => cases reads
  | scripted script => cases reads
  | field rule =>
      cases rule with
      | ofField name expected => cases reads
      | ofDepartment name | ofKnownDepartment known =>
          cases reads
          exact ⟨_, _, _, fun _ => rfl, rfl⟩
      | ofRole name | ofKnownRole known =>
          cases reads
          exact ⟨_, _, _, fun _ => rfl, rfl⟩
  | salary rule =>
      cases reads
      exact ⟨_, _, _, fun _ => rfl, rfl⟩
  | tenure rule =>
      cases reads
      exact ⟨_, _, _, fun _ => rfl, rfl⟩

theorem judge_of_employeeField (criterion : Criterion) (field : EmployeeField)
    (reads : criterion.employeeField? = some field) (subject : Subject) :
    (field.fault? subject.candidate = none →
      ∃ verdict, ∀ calls, criterion.judge subject calls = .ok verdict) ∧
    ∀ fault, field.fault? subject.candidate = some fault →
      ∀ calls, criterion.judge subject calls = .error fault := by
  obtain ⟨Kind, reading, test, judged, found⟩ := judge_reads_field criterion field reads subject
  rw [found]
  cases reading with
  | ok value =>
      exact ⟨fun _ => ⟨test value, judged⟩, fun _ unreadable => by cases unreadable⟩
  | error fault =>
      refine ⟨fun readable => (by cases readable), ?_⟩
      intro other same calls
      cases same
      exact judged calls

theorem answer_eq_judge (criterion : Criterion) (field : EmployeeField)
    (reads : criterion.employeeField? = some field) (subject : Subject) (node : NodeId)
    (history : CallHistory) :
    (criterion.answer subject node).outcome history = criterion.judge subject 0 := by
  cases criterion with
  | scripted script => cases reads
  | field rule => rfl
  | salary rule => rfl
  | tenure rule => rfl
  | flagged key => rfl
  | unfinished => rfl

end Criterion

/-! ## The check -/

namespace Employee

theorem mem_all (field : EmployeeField) : field ∈ EmployeeField.all := by
  cases field <;> decide

theorem mem_messages_iff (candidate : Candidate) (key : String) (texts : List String) :
    (key, texts) ∈ messages candidate ↔
      ∃ field fault, EmployeeField.fault? candidate field = some fault ∧
        key = field.key ∧ texts = [fault.message] := by
  rw [messages, List.mem_filterMap]
  constructor
  · rintro ⟨field, -, entry⟩
    obtain ⟨fault, unreadable, same⟩ := Option.map_eq_some_iff.mp entry
    cases same
    exact ⟨field, fault, unreadable, rfl, rfl⟩
  · rintro ⟨field, fault, unreadable, rfl, rfl⟩
    exact ⟨field, mem_all field, by rw [unreadable]; rfl⟩

theorem messages_eq_nil_iff (candidate : Candidate) :
    messages candidate = [] ↔ ∀ field, EmployeeField.fault? candidate field = none := by
  rw [messages, List.filterMap_eq_nil_iff]
  constructor
  · intro readable field
    exact Option.map_eq_none_iff.mp (readable field (mem_all field))
  · intro readable field _
    rw [readable field]
    rfl

/-- The errors keep the order of the fields. -/
theorem messages_keys_sublist (candidate : Candidate) :
    ((messages candidate).map Prod.fst).Sublist (EmployeeField.all.map EmployeeField.key) := by
  rw [messages, List.map_filterMap]
  induction EmployeeField.all with
  | nil => exact List.Sublist.refl []
  | cons field rest ih =>
      rw [List.filterMap_cons, List.map_cons]
      cases EmployeeField.fault? candidate field with
      | none => exact ih.cons field.key
      | some fault => exact ih.cons_cons field.key

/-- The fault of reading a field, seen from the result of the reading. -/
theorem fault_of_readsAs {Kind : Type} {candidate : Candidate} {field : EmployeeField}
    {expected : Expectation} {reading : Except Fault Kind}
    (readsAs : candidate.ReadsAs field.key expected reading)
    (found : field.fault? candidate = Fault.of? reading) :
    ((field.fault? candidate).filter fun fault => !fault.isOfField) =
      if field.HasText candidate then none else some .textless := by
  rw [found]
  cases readsAs with
  | value hasText | missing hasText | malformed hasText => exact (if_pos hasText).symm
  | textless noText => exact (if_neg ((field.not_hasText_iff candidate).mpr noText)).symm

theorem raised_by_field (candidate : Candidate) (field : EmployeeField) :
    ((field.fault? candidate).filter fun fault => !fault.isOfField) =
      if field.HasText candidate then none else some .textless := by
  cases field with
  | department | role => exact fault_of_readsAs (candidate.readText_readsAs _) rfl
  | grossSalary => exact fault_of_readsAs (candidate.readDecimal_readsAs _) rfl
  | admissionDate => exact fault_of_readsAs (candidate.readDate_readsAs _) rfl

theorem raised?_eq_some_iff (candidate : Candidate) (fault : Fault) :
    raised? candidate = some fault ↔
      fault = .textless ∧ ∃ field : EmployeeField, ¬field.HasText candidate := by
  simp only [raised?, raised_by_field]
  constructor
  · intro raised
    obtain ⟨field, -, found⟩ := List.exists_of_findSome?_eq_some raised
    split at found
    case isTrue => cases found
    case isFalse noText => exact ⟨(Option.some.inj found).symm, field, noText⟩
  · rintro ⟨rfl, field, noText⟩
    cases first : EmployeeField.all.findSome? fun field =>
        if field.HasText candidate then none else some Fault.textless with
    | none =>
        have silent := List.findSome?_eq_none_iff.mp first field (mem_all field)
        rw [if_neg noText] at silent
        cases silent
    | some other =>
        obtain ⟨_, -, found⟩ := List.exists_of_findSome?_eq_some first
        split at found
        case isTrue => cases found
        case isFalse => exact found.symm

theorem parse_of_textless (candidate : Candidate) (field : EmployeeField)
    (noText : ¬field.HasText candidate) : parse candidate = .error .textless := by
  rw [parse, validate, (raised?_eq_some_iff candidate .textless).mpr ⟨rfl, field, noText⟩]
  rfl

theorem parse_of_hasText (candidate : Candidate)
    (hasText : ∀ field : EmployeeField, field.HasText candidate) :
    parse candidate =
      if (messages candidate).isEmpty then .ok candidate
      else .error (.invalidCandidate (messages candidate) (rejection (messages candidate))) := by
  have silent : raised? candidate = none := by
    rw [Option.eq_none_iff_forall_ne_some]
    intro fault raised
    obtain ⟨-, field, noText⟩ := (raised?_eq_some_iff candidate fault).mp raised
    exact noText (hasText field)
  rw [parse, validate, silent]
  rfl

theorem parse_eq_ok_iff (candidate parsed : Candidate) :
    parse candidate = .ok parsed ↔
      parsed = candidate ∧ ∀ field, EmployeeField.fault? candidate field = none := by
  by_cases hasText : ∀ field : EmployeeField, field.HasText candidate
  case pos =>
    rw [parse_of_hasText candidate hasText, ← messages_eq_nil_iff]
    cases messages candidate with
    | nil => simp [eq_comm]
    | cons error rest => simp
  case neg =>
    obtain ⟨field, noText⟩ := not_forall.mp hasText
    rw [parse_of_textless candidate field noText]
    have raises := raised_by_field candidate field
    rw [if_neg noText] at raises
    refine iff_of_false nofun ?_
    rintro ⟨-, readable⟩
    rw [readable field] at raises
    cases raises

theorem parse_eq_textless_iff (candidate : Candidate) :
    parse candidate = .error .textless ↔ ∃ field : EmployeeField, ¬field.HasText candidate := by
  constructor
  · intro failed
    by_contra hasText
    rw [parse_of_hasText candidate (not_exists_not.mp hasText)] at failed
    split at failed <;> cases failed
  · rintro ⟨field, noText⟩
    exact parse_of_textless candidate field noText

theorem eq_of_rejected (candidate : Candidate)
    (hasText : ∀ field : EmployeeField, field.HasText candidate) (fault : Fault)
    (rejected : parse candidate = .error fault) :
    fault = .invalidCandidate (messages candidate) (rejection (messages candidate)) := by
  rw [parse_of_hasText candidate hasText] at rejected
  split at rejected
  case isTrue => cases rejected
  case isFalse => exact (Except.error.inj rejected).symm

/-! ## Criteria and rules -/

theorem answered_of_readable (subject : Subject)
    (readable : ∀ field, EmployeeField.fault? subject.candidate field = none)
    (criterion : Criterion) (overEmployees : criterion.IsOverEmployees) (node : NodeId) :
    ∃ verdict, ∀ history, (criterion.answer subject node).outcome history = .ok verdict := by
  obtain ⟨field, reads⟩ := criterion.reads_field_of_overEmployees overEmployees
  obtain ⟨verdict, judged⟩ :=
    (criterion.judge_of_employeeField field reads subject).1 (readable field)
  refine ⟨verdict, fun history => ?_⟩
  rw [criterion.answer_eq_judge field reads, judged]

theorem readable_of_answered (subject : Subject)
    (answered : ∀ criterion : Criterion, criterion.IsOverEmployees →
      ∃ verdict, (criterion.answer subject 0).outcome [] = .ok verdict)
    (field : EmployeeField) : field.fault? subject.candidate = none := by
  obtain ⟨criterion, overEmployees, reads⟩ := Criterion.overEmployees_of_field field
  obtain ⟨verdict, outcome⟩ := answered criterion overEmployees
  rw [criterion.answer_eq_judge field reads] at outcome
  cases unreadable : field.fault? subject.candidate with
  | none => rfl
  | some fault =>
      have failed := (criterion.judge_of_employeeField field reads subject).2 fault unreadable 0
      rw [failed] at outcome
      cases outcome

theorem mem_messages_iff_reading_fails (candidate : Candidate) (key : String)
    (texts : List String) :
    (key, texts) ∈ messages candidate ↔
      (key = "area" ∧ ∃ fault, candidate.readText "area" = .error fault ∧
        texts = [fault.message]) ∨
      (key = "cargo" ∧ ∃ fault, candidate.readText "cargo" = .error fault ∧
        texts = [fault.message]) ∨
      (key = "salario_bruto" ∧ ∃ fault, candidate.readDecimal "salario_bruto" = .error fault ∧
        texts = [fault.message]) ∨
      (key = "data_de_admissao" ∧ ∃ fault,
        candidate.readDate "data_de_admissao" = .error fault ∧ texts = [fault.message]) := by
  rw [mem_messages_iff]
  constructor
  · rintro ⟨field, fault, unreadable, rfl, rfl⟩
    cases field with
    | department =>
        exact .inl ⟨rfl, fault, Fault.of?_eq_some_iff.mp unreadable, rfl⟩
    | role =>
        exact .inr (.inl ⟨rfl, fault, Fault.of?_eq_some_iff.mp unreadable, rfl⟩)
    | grossSalary =>
        exact .inr (.inr (.inl ⟨rfl, fault, Fault.of?_eq_some_iff.mp unreadable, rfl⟩))
    | admissionDate =>
        exact .inr (.inr (.inr ⟨rfl, fault, Fault.of?_eq_some_iff.mp unreadable, rfl⟩))
  · rintro (⟨rfl, fault, unreadable, rfl⟩ | ⟨rfl, fault, unreadable, rfl⟩ |
      ⟨rfl, fault, unreadable, rfl⟩ | ⟨rfl, fault, unreadable, rfl⟩)
    · exact ⟨.department, fault, Fault.of?_eq_some_iff.mpr unreadable, rfl, rfl⟩
    · exact ⟨.role, fault, Fault.of?_eq_some_iff.mpr unreadable, rfl, rfl⟩
    · exact ⟨.grossSalary, fault, Fault.of?_eq_some_iff.mpr unreadable, rfl, rfl⟩
    · exact ⟨.admissionDate, fault, Fault.of?_eq_some_iff.mpr unreadable, rfl, rfl⟩

def sampleRecord : Record :=
  [("area", .text "Contabilidade"), ("cargo", .text "Estagiário"),
    ("salario_bruto", .decimal (.finite SalaryScale.defaultBase)),
    ("data_de_admissao", .date (some .epoch))]

def illegibleRecord : Record :=
  [("cargo", .text "Estagiário"), ("salario_bruto", .boolean true),
    ("data_de_admissao", .date (some .epoch))]

def textlessRecord : Record :=
  [("area", .record [("toString", .number (.finite 1))]), ("cargo", .text "Analista")]

def sampleRule : Rule NodeId Criterion :=
  .compound 2 .conjunction
    [.leaf 0 (.field (.ofKnownDepartment .informationTechnology)),
      .leaf 1 (.salary ⟨.above SalaryScale.defaultBase, .standard⟩)]

theorem sampleRule_overEmployees : ∀ leaf ∈ sampleRule.leaves, leaf.2.IsOverEmployees := by
  rw [sampleRule, Rule.leaves_compound]
  simp only [List.flatMap_cons, List.flatMap_nil, Rule.leaves_leaf, List.append_nil,
    List.cons_append, List.nil_append, List.forall_mem_cons, List.not_mem_nil, false_imp_iff,
    implies_true, and_true]
  constructor
  · exact ⟨.knownDepartment .informationTechnology, .epoch, [], rfl, rfl⟩
  · exact ⟨.salaryAbove, .epoch, [.plain (.decimal (.finite SalaryScale.defaultBase))], rfl, rfl⟩

end Employee

end Eligibility
