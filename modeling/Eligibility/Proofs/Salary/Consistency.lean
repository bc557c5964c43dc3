import Eligibility.Graph.Answer
import Eligibility.Proofs.Candidate.Readings
import Eligibility.Proofs.Rule.Remainder
import Eligibility.Proofs.Salary.Comparison

/-!
# Salaries and thresholds in order

Rounding keeps the order of the multiples, so a higher salary never compares lower and a higher
ratio never compares higher, whether a product is exact or not.  A salary is above one threshold,
below it, or within the range that it bounds alone; one that cannot be read is reported, unless it
cannot be put into words.
-/

set_option autoImplicit false

namespace Eligibility

namespace SalaryScale

variable (scale : SalaryScale)

theorem multiple_mono {lower higher : Decimal} (le : lower.value ≤ higher.value) :
    kept (scale.multiple lower) ≤ kept (scale.multiple higher) :=
  kept_monotone (mul_le_mul_of_nonneg_right le scale.base_pos.le)

theorem compare_mono_salary {lower higher : Decimal} (le : lower.value ≤ higher.value)
    (ratio : Decimal) :
    ∃ first second, (scale.compare? lower ratio).map signOf = some first ∧
      (scale.compare? higher ratio).map signOf = some second ∧ first ≤ second :=
  ⟨_, _, scale.sign_compare lower ratio, scale.sign_compare higher ratio,
    SignType.sign.monotone (sub_le_sub_right le _)⟩

theorem compare_antitone_ratio (salary : Decimal) {lower higher : Decimal}
    (le : lower.value ≤ higher.value) :
    ∃ first second, (scale.compare? salary lower).map signOf = some first ∧
      (scale.compare? salary higher).map signOf = some second ∧ second ≤ first :=
  ⟨_, _, scale.sign_compare salary lower, scale.sign_compare salary higher,
    SignType.sign.monotone (sub_le_sub_left (scale.multiple_mono le) _)⟩

end SalaryScale

namespace SalaryRule

/-! ## Reading the salary -/

/-- The salary is missing or no decimal. -/
def IsSalaryFault (candidate : Candidate) (fault : Fault) : Prop :=
  fault = .missingField EmployeeField.grossSalary.key ∨
    ∃ hasText, fault = .malformedValue EmployeeField.grossSalary.key
      (candidate.record.get EmployeeField.grossSalary.key) hasText .decimal

theorem not_isSalaryFault_textless (candidate : Candidate) :
    ¬IsSalaryFault candidate .textless := by
  rintro (missing | ⟨hasText, malformed⟩)
  · cases missing
  · cases malformed

theorem salary_read_or_fault (candidate : Candidate) :
    (EmployeeField.grossSalary.HasText candidate ∧
      ∃ salary, candidate.readDecimal EmployeeField.grossSalary.key = .ok salary) ∨
    (EmployeeField.grossSalary.HasText candidate ∧ ∃ fault, IsSalaryFault candidate fault ∧
      candidate.readDecimal EmployeeField.grossSalary.key = .error fault) ∨
    (¬EmployeeField.grossSalary.HasText candidate ∧
      candidate.readDecimal EmployeeField.grossSalary.key = .error .textless) := by
  rw [EmployeeField.not_hasText_iff, EmployeeField.HasText]
  generalize read : candidate.readDecimal EmployeeField.grossSalary.key = result
  have turnsOut := candidate.readDecimal_readsAs EmployeeField.grossSalary.key
  rw [read] at turnsOut
  cases turnsOut with
  | value hasText salary => exact .inl ⟨hasText, salary, rfl⟩
  | missing hasText => exact .inr (.inl ⟨hasText, _, .inl rfl, rfl⟩)
  | malformed hasText => exact .inr (.inl ⟨hasText, _, .inr ⟨hasText, rfl⟩, rfl⟩)
  | textless noText => exact .inr (.inr ⟨noText, rfl⟩)

theorem judge_of_unread (rule : SalaryRule) (candidate : Candidate) (fault : Fault)
    (unread : candidate.readDecimal EmployeeField.grossSalary.key = .error fault) :
    rule.judge candidate = .error fault := by
  rw [judge, unread]
  rfl

theorem judge_true_iff (rule : SalaryRule) (candidate : Candidate) :
    rule.judge candidate = .ok true ↔
      ∃ salary, candidate.readDecimal EmployeeField.grossSalary.key = .ok salary ∧
        rule.admits salary = true := by
  cases read : candidate.readDecimal EmployeeField.grossSalary.key with
  | ok salary => simp [judge_of_read rule candidate salary read]
  | error fault => simp [judge_of_unread rule candidate fault read]

/-! ## Thresholds -/

variable (scale : SalaryScale)

theorem above_antitone (candidate : Candidate) {lower higher : Decimal}
    (le : lower.value ≤ higher.value)
    (satisfied : judge ⟨.above higher, scale⟩ candidate = .ok true) :
    judge ⟨.above lower, scale⟩ candidate = .ok true := by
  rw [judge_true_iff] at satisfied ⊢
  obtain ⟨salary, read, admitted⟩ := satisfied
  rw [admits_iff] at admitted
  exact ⟨salary, read, (admits_iff _ _).mpr ((scale.multiple_mono le).trans_lt admitted)⟩

theorem below_monotone (candidate : Candidate) {lower higher : Decimal}
    (le : lower.value ≤ higher.value)
    (satisfied : judge ⟨.below lower, scale⟩ candidate = .ok true) :
    judge ⟨.below higher, scale⟩ candidate = .ok true := by
  rw [judge_true_iff] at satisfied ⊢
  obtain ⟨salary, read, admitted⟩ := satisfied
  rw [admits_iff] at admitted
  exact ⟨salary, read, (admits_iff _ _).mpr (admitted.trans_le (scale.multiple_mono le))⟩

def boundAt (threshold : Decimal) : Ordering → SalaryBound
  | .gt => .above threshold
  | .lt => .below threshold
  | .eq => .within threshold threshold

theorem boundAt_admits_iff (salary threshold : Decimal) (order : Ordering) :
    admits ⟨boundAt threshold order, scale⟩ salary = true ↔
      scale.compare? salary threshold = some order := by
  cases order with
  | gt => exact decide_eq_true_iff
  | lt => exact decide_eq_true_iff
  | eq =>
      rw [admits_iff, scale.compare_eq_eq_iff, eq_comm]
      exact le_antisymm_iff.symm

theorem one_bound_satisfied (candidate : Candidate) (threshold salary : Decimal)
    (read : candidate.readDecimal EmployeeField.grossSalary.key = .ok salary) :
    ∃! order, judge ⟨boundAt threshold order, scale⟩ candidate = .ok true := by
  have satisfied_iff : ∀ order, judge ⟨boundAt threshold order, scale⟩ candidate = .ok true ↔
      scale.compare? salary threshold = some order := by
    intro order
    rw [judge_of_read _ candidate salary read, Except.ok.injEq, boundAt_admits_iff]
  obtain ⟨order, found, -⟩ := scale.compare_found salary threshold
  refine ⟨order, (satisfied_iff order).mpr found, ?_⟩
  intro other satisfied
  rw [satisfied_iff, found] at satisfied
  exact (Option.some.inj satisfied).symm

/-- The three rules of a threshold fail with one fault of the salary, or each of them has a verdict
and exactly one is satisfied. -/
def FailAlikeOrExclude (candidate : Candidate) (threshold : Decimal) : Prop :=
  (∃ fault, IsSalaryFault candidate fault ∧
    ∀ order, judge ⟨boundAt threshold order, scale⟩ candidate = .error fault) ∨
  ((∀ order, ∃ verdict, judge ⟨boundAt threshold order, scale⟩ candidate = .ok verdict) ∧
    ∃! order, judge ⟨boundAt threshold order, scale⟩ candidate = .ok true)

theorem failAlikeOrExclude_iff (candidate : Candidate) (threshold : Decimal) :
    FailAlikeOrExclude scale candidate threshold ↔ EmployeeField.grossSalary.HasText candidate := by
  obtain ⟨hasText, salary, read⟩ | ⟨hasText, fault, about, unread⟩ | ⟨noText, unread⟩ :=
    salary_read_or_fault candidate
  · refine iff_of_true (.inr ⟨fun order => ⟨_, judge_of_read _ candidate salary read⟩, ?_⟩) hasText
    exact one_bound_satisfied scale candidate threshold salary read
  · refine iff_of_true (.inl ⟨fault, about, fun order => ?_⟩) hasText
    exact judge_of_unread _ candidate fault unread
  · refine iff_of_false ?_ noText
    have failing : judge ⟨boundAt threshold .gt, scale⟩ candidate = .error .textless :=
      judge_of_unread _ candidate _ unread
    rintro (⟨fault, about, fails⟩ | ⟨answers, -⟩)
    · cases failing.symm.trans (fails .gt)
      exact not_isSalaryFault_textless candidate about
    · obtain ⟨verdict, answered⟩ := answers .gt
      cases failing.symm.trans answered

theorem judge_of_textless (rule : SalaryRule) (candidate : Candidate)
    (noText : ¬EmployeeField.grossSalary.HasText candidate) :
    rule.judge candidate = .error .textless := by
  obtain ⟨hasText, -⟩ | ⟨hasText, -⟩ | ⟨-, unread⟩ := salary_read_or_fault candidate
  · exact absurd hasText noText
  · exact absurd hasText noText
  · exact judge_of_unread rule candidate _ unread

/-! ## Ranges -/

theorem admits_within (salary first second : Decimal) :
    admits ⟨.within first second, scale⟩ salary =
      (!admits ⟨.below first, scale⟩ salary && !admits ⟨.above second, scale⟩ salary) := by
  rw [Bool.eq_iff_iff, Bool.and_eq_true, Bool.not_eq_true', Bool.not_eq_true',
    ← Bool.not_eq_true, ← Bool.not_eq_true, admits_iff, admits_iff, admits_iff]
  exact and_congr not_lt.symm not_lt.symm

theorem leaf_outcome (subject : Subject) (node : NodeId) (rule : SalaryRule)
    (history : CallHistory) :
    (Rule.judge (Criterion.answer subject) (.leaf node (.salary rule))).outcome history =
      rule.judge subject.candidate :=
  rfl

def neitherBeyond (first second : Decimal) (nodes : ℕ → NodeId) : Rule NodeId Criterion :=
  .compound (nodes 0) .conjunction
    [.negation (nodes 1) (.leaf (nodes 2) (.salary ⟨.below first, scale⟩)),
      .negation (nodes 3) (.leaf (nodes 4) (.salary ⟨.above second, scale⟩))]

theorem neitherBeyond_outcome (subject : Subject) (first second : Decimal) (nodes : ℕ → NodeId)
    (history : CallHistory) :
    ((neitherBeyond scale first second nodes).judge (Criterion.answer subject)).outcome history =
      judge ⟨.within first second, scale⟩ subject.candidate := by
  have steady : ∀ other ∈ [Rule.negation (nodes 3) (.leaf (nodes 4)
      (Criterion.salary ⟨.above second, scale⟩))],
      (other.judge (Criterion.answer subject)).IsSteady := by
    intro other member earlier later
    rw [List.mem_singleton.mp member, Rule.judge_negation_outcome, Rule.judge_negation_outcome]
    rfl
  rw [neitherBeyond, Rule.judge_conjunction_outcome _ _ _ (List.cons_ne_nil _ _),
    Rule.judgeAll_outcome_cons _ _ _ _ steady,
    Rule.judgeAll_outcome_cons _ _ _ _ (fun _ member => absurd member List.not_mem_nil),
    Rule.judge_negation_outcome, Rule.judge_negation_outcome, leaf_outcome, leaf_outcome]
  cases read : subject.candidate.readDecimal EmployeeField.grossSalary.key with
  | ok salary =>
      rw [judge_of_read _ _ salary read, judge_of_read _ _ salary read,
        judge_of_read _ _ salary read, admits_within]
      cases admits ⟨.below first, scale⟩ salary <;>
        cases admits ⟨.above second, scale⟩ salary <;> rfl
  | error fault =>
      rw [judge_of_unread _ _ fault read, judge_of_unread _ _ fault read,
        judge_of_unread _ _ fault read]
      rfl

end SalaryRule

def Candidate.long : Candidate :=
  ⟨[("salario_bruto", .decimal (.finite .long))]⟩

def Candidate.textless : Candidate :=
  ⟨[("salario_bruto", .record [("toString", .number (.finite 1))])]⟩

end Eligibility
