import Eligibility.Criterion.Salary
import Eligibility.Proofs.Decimal.Results
import Mathlib.Algebra.Order.Group.Pointwise.Interval

/-!
# Salaries against multiples of the base

A comparison multiplies the ratio by the base, and the product is rounded.  So it has the sign of
the exact difference of the ratios unless the rounding moves the multiple onto the salary or across
it.
-/

set_option autoImplicit false

namespace Eligibility

namespace SalaryScale

theorem ext_base {first second : SalaryScale} (same : first.base = second.base) :
    first = second := by
  cases first
  cases second
  cases same
  rfl

variable (scale : SalaryScale) (salary ratio : Decimal)

def multiple : ℚ :=
  ratio.value * scale.base.value

theorem base_pos : 0 < scale.base.value :=
  scale.base.value_pos_iff.mpr (of_decide_eq_true scale.positive)

/-! ## The sign of a comparison -/

theorem sign_compare : (scale.compare? salary ratio).map signOf =
    some (SignType.sign (salary.value - kept (scale.multiple ratio))) :=
  ExtendedDecimal.signOf_orderTo?_of_isRoundingOf
    (Decimal.product_isRounding ratio scale.base) salary

theorem sign_exact : SignType.sign (salary.value / scale.base.value - ratio.value) =
    SignType.sign (salary.value - scale.multiple ratio) := by
  have base := scale.base_pos
  have difference : salary.value - scale.multiple ratio =
      (salary.value / scale.base.value - ratio.value) * scale.base.value := by
    rw [multiple, sub_mul, div_mul_cancel₀ _ base.ne']
  rw [difference, sign_mul_of_pos base]

theorem compare_found : ∃ order, scale.compare? salary ratio = some order ∧
    signOf order = SignType.sign (salary.value - kept (scale.multiple ratio)) :=
  Option.map_eq_some_iff.mp (scale.sign_compare salary ratio)

theorem compare_eq_gt_iff : scale.compare? salary ratio = some .gt ↔
    kept (scale.multiple ratio) < salary.value := by
  obtain ⟨order, found, sign⟩ := scale.compare_found salary ratio
  rw [found, Option.some.injEq, ← signOf_eq_one_iff, sign, sign_eq_one_iff, sub_pos]

theorem compare_eq_lt_iff : scale.compare? salary ratio = some .lt ↔
    salary.value < kept (scale.multiple ratio) := by
  obtain ⟨order, found, sign⟩ := scale.compare_found salary ratio
  rw [found, Option.some.injEq, ← signOf_eq_neg_iff, sign, sign_eq_neg_one_iff, sub_neg]

theorem compare_eq_eq_iff : scale.compare? salary ratio = some .eq ↔
    salary.value = kept (scale.multiple ratio) := by
  obtain ⟨order, found, sign⟩ := scale.compare_found salary ratio
  rw [found, Option.some.injEq, ← signOf_eq_zero_iff, sign, sign_eq_zero_iff, sub_eq_zero]

theorem compare_any_isGE_iff : (scale.compare? salary ratio).any (·.isGE) = true ↔
    kept (scale.multiple ratio) ≤ salary.value := by
  obtain ⟨order, found, sign⟩ := scale.compare_found salary ratio
  rw [found, Option.any_some, isGE_iff_signOf, sign, sign_nonneg_iff, sub_nonneg]

theorem compare_any_isLE_iff : (scale.compare? salary ratio).any (·.isLE) = true ↔
    salary.value ≤ kept (scale.multiple ratio) := by
  obtain ⟨order, found, sign⟩ := scale.compare_found salary ratio
  rw [found, Option.any_some, isLE_iff_signOf, sign, sign_nonpos_iff, sub_nonpos]

end SalaryScale

/-! ## Bounds -/

namespace SalaryBound

/-- A number lies within the bound, once it is known what the thresholds amount to. -/
def Holds (amount : Decimal → ℚ) (number : ℚ) : SalaryBound → Prop
  | .above threshold => amount threshold < number
  | .below threshold => number < amount threshold
  | .within first second => amount first ≤ number ∧ number ≤ amount second

def thresholds : SalaryBound → List Decimal
  | .above threshold | .below threshold => [threshold]
  | .within first second => [first, second]

end SalaryBound

namespace SalaryRule

theorem admits_iff (rule : SalaryRule) (salary : Decimal) :
    rule.admits salary = true ↔
      rule.bound.Holds (fun threshold => kept (rule.scale.multiple threshold)) salary.value := by
  obtain ⟨bound, scale⟩ := rule
  cases bound with
  | above threshold =>
      exact decide_eq_true_iff.trans (scale.compare_eq_gt_iff salary threshold)
  | below threshold =>
      exact decide_eq_true_iff.trans (scale.compare_eq_lt_iff salary threshold)
  | within first second =>
      rw [admits, Bool.and_eq_true, scale.compare_any_isGE_iff, scale.compare_any_isLE_iff]
      rfl

end SalaryRule

/-! ## Roundings that show -/

namespace SalaryScale

variable (scale : SalaryScale) (salary ratio : Decimal)

/-- Rounding moves the multiple of the base onto the salary or across it. -/
def RoundsAcross : Prop :=
  kept (scale.multiple ratio) ≠ scale.multiple ratio ∧
    salary.value ∈ Set.uIcc (kept (scale.multiple ratio)) (scale.multiple ratio)

theorem compare_exact_iff : (scale.compare? salary ratio).map signOf =
      some (SignType.sign (salary.value / scale.base.value - ratio.value)) ↔
    ¬scale.RoundsAcross salary ratio := by
  rw [sign_compare, sign_exact, Option.some.injEq, sign_sub_eq_iff, RoundsAcross]

theorem hasDigits_multiple (few : digitCount ratio.coefficient.natAbs +
    digitCount scale.base.coefficient.natAbs ≤ Decimal.precision) :
    HasDigits Decimal.precision (scale.multiple ratio) := by
  refine ⟨ratio.coefficient * scale.base.coefficient, ratio.exponent + scale.base.exponent,
    ?_, ?_⟩
  · rw [Int.natAbs_mul]
    calc _ < 10 ^ digitCount ratio.coefficient.natAbs *
          10 ^ digitCount scale.base.coefficient.natAbs :=
          Nat.mul_lt_mul'' (lt_pow_digitCount _) (lt_pow_digitCount _)
      _ ≤ 10 ^ Decimal.precision := by
          rw [← pow_add]
          exact Nat.pow_le_pow_right (by norm_num) few
  · rw [multiple, Decimal.value, Decimal.value, zpow_add₀ (by norm_num)]
    push_cast
    ring

theorem zpow_le_abs_salary (nonzero : salary.value ≠ 0) :
    (10 : ℚ) ^ (-Decimal.exponentLimit) ≤ |salary.value| :=
  (zpow_le_abs_iff nonzero).mpr (salary.leadingPlace_bounded nonzero).1

/-- A salary that is not zero never tells zero from a multiple that is too small. -/
theorem kept_of_roundsAcross (across : scale.RoundsAcross salary ratio)
    (nonzero : salary.value ≠ 0) :
    kept (scale.multiple ratio) = rounded Decimal.precision (scale.multiple ratio) := by
  rw [kept, flushed, ite_eq_right_iff]
  intro small
  have keptZero : kept (scale.multiple ratio) = 0 := by rw [kept, flushed, if_pos small]
  have between := across.2
  rw [keptZero] at between
  have within := Set.abs_sub_left_of_mem_uIcc between
  rw [sub_zero, sub_zero] at within
  have large := zpow_le_abs_rounded precision_pos
    ((zpow_le_abs_salary salary nonzero).trans within)
  exact absurd small large.not_gt

/-- Exactly computed multiples are not moved. -/
theorem not_roundsAcross (fits : HasDigits Decimal.precision (scale.multiple ratio))
    (large : salary.value ≠ 0 ∨ -Decimal.exponentLimit ≤ leadingPlace (scale.multiple ratio)) :
    ¬scale.RoundsAcross salary ratio := by
  intro across
  apply across.1
  rcases large with nonzero | large
  · rw [scale.kept_of_roundsAcross salary ratio across nonzero, rounded_of_hasDigits fits]
  · exact kept_eq_self fits large

theorem distance_of_roundsAcross (across : scale.RoundsAcross salary ratio)
    (nonzero : salary.value ≠ 0) :
    |salary.value / scale.base.value - ratio.value| ≤
      |ratio.value| * (10 ^ (1 - Decimal.precision : ℤ) / 2) := by
  have base := scale.base_pos
  have difference : salary.value / scale.base.value - ratio.value =
      (salary.value - scale.multiple ratio) / scale.base.value := by
    rw [multiple, sub_div, mul_div_cancel_right₀ _ base.ne']
  have nearer : |salary.value - scale.multiple ratio| ≤
      |kept (scale.multiple ratio) - scale.multiple ratio| := by
    rw [abs_sub_comm, abs_sub_comm (kept _)]
    exact Set.abs_sub_right_of_mem_uIcc across.2
  have moved := abs_rounded_sub_le_mul Decimal.precision (scale.multiple ratio)
  rw [← scale.kept_of_roundsAcross salary ratio across nonzero] at moved
  have magnitude : |scale.multiple ratio| = |ratio.value| * scale.base.value := by
    rw [multiple, abs_mul, abs_of_pos base]
  rw [difference, abs_div, abs_of_pos base, div_le_iff₀ base]
  calc _ ≤ |scale.multiple ratio| * (10 ^ (1 - Decimal.precision : ℤ) / 2) := nearer.trans moved
    _ = _ := by rw [magnitude, mul_right_comm]

theorem sign_of_unmoved (unmoved : ¬scale.RoundsAcross salary ratio) :
    SignType.sign (salary.value - kept (scale.multiple ratio)) =
      SignType.sign (salary.value / scale.base.value - ratio.value) := by
  have exact := (scale.compare_exact_iff salary ratio).mpr unmoved
  rw [sign_compare] at exact
  exact Option.some.inj exact

theorem kept_lt_iff (unmoved : ¬scale.RoundsAcross salary ratio) :
    kept (scale.multiple ratio) < salary.value ↔
      ratio.value < salary.value / scale.base.value := by
  rw [← sub_pos, ← sign_eq_one_iff, scale.sign_of_unmoved salary ratio unmoved, sign_eq_one_iff,
    sub_pos]

theorem lt_kept_iff (unmoved : ¬scale.RoundsAcross salary ratio) :
    salary.value < kept (scale.multiple ratio) ↔
      salary.value / scale.base.value < ratio.value := by
  rw [← sub_neg, ← sign_eq_neg_one_iff, scale.sign_of_unmoved salary ratio unmoved,
    sign_eq_neg_one_iff, sub_neg]

end SalaryScale

namespace SalaryRule

theorem admits_exact_iff (rule : SalaryRule) (salary : Decimal)
    (unmoved : ∀ threshold ∈ rule.bound.thresholds, ¬rule.scale.RoundsAcross salary threshold) :
    rule.admits salary = true ↔
      rule.bound.Holds Decimal.value (salary.value / rule.scale.base.value) := by
  rw [admits_iff]
  obtain ⟨bound, scale⟩ := rule
  cases bound with
  | above threshold =>
      exact scale.kept_lt_iff salary threshold (unmoved threshold (List.mem_singleton_self _))
  | below threshold =>
      exact scale.lt_kept_iff salary threshold (unmoved threshold (List.mem_singleton_self _))
  | within first second =>
      have fromFirst : kept (scale.multiple first) ≤ salary.value ↔
          first.value ≤ salary.value / scale.base.value := by
        rw [← not_lt, scale.lt_kept_iff salary first (unmoved first (List.mem_cons_self ..)),
          not_lt]
      have toSecond : salary.value ≤ kept (scale.multiple second) ↔
          salary.value / scale.base.value ≤ second.value := by
        rw [← not_lt, scale.kept_lt_iff salary second
          (unmoved second (List.mem_cons_of_mem _ (List.mem_singleton_self _))), not_lt]
      exact and_congr fromFirst toSecond

theorem judge_of_read (rule : SalaryRule) (candidate : Candidate) (salary : Decimal)
    (read : candidate.readDecimal EmployeeField.grossSalary.key = .ok salary) :
    rule.judge candidate = .ok (rule.admits salary) := by
  rw [judge, read]
  rfl

end SalaryRule

/-- A comparison has the sign of the exact difference between the ratio of the salary and the
given one if and only if rounding does not move the multiple across the salary.  It never does when
the multiple has no more digits than the precision, unless the multiple is too small and the salary
zero; and where it does, the two ratios agree to the precision. -/
theorem SalaryScale.comparison_exact_iff (scale : SalaryScale) (salary ratio : Decimal) :
    ((scale.compare? salary ratio).map signOf =
        some (SignType.sign (salary.value / scale.base.value - ratio.value)) ↔
      ¬scale.RoundsAcross salary ratio) ∧
    (HasDigits Decimal.precision (scale.multiple ratio) →
      salary.value ≠ 0 ∨ -Decimal.exponentLimit ≤ leadingPlace (scale.multiple ratio) →
      ¬scale.RoundsAcross salary ratio) ∧
    (scale.RoundsAcross salary ratio → salary.value ≠ 0 →
      |salary.value / scale.base.value - ratio.value| ≤
        |ratio.value| * (10 ^ (1 - Decimal.precision : ℤ) / 2)) ∧
    ∀ (bound : SalaryBound) (candidate : Candidate),
      candidate.readDecimal EmployeeField.grossSalary.key = .ok salary →
      (∀ threshold ∈ bound.thresholds, ¬scale.RoundsAcross salary threshold) →
      ∃ verdict, SalaryRule.judge ⟨bound, scale⟩ candidate = .ok verdict ∧
        (verdict = true ↔ bound.Holds Decimal.value (salary.value / scale.base.value)) := by
  refine ⟨scale.compare_exact_iff salary ratio, scale.not_roundsAcross salary ratio,
    scale.distance_of_roundsAcross salary ratio, ?_⟩
  intro bound candidate read unmoved
  exact ⟨_, SalaryRule.judge_of_read ⟨bound, scale⟩ candidate salary read,
    SalaryRule.admits_exact_iff ⟨bound, scale⟩ salary unmoved⟩

/-! ## A ratio of too many digits -/

def SalaryScale.unit : SalaryScale where
  base :=
    { coefficient := 1
      exponent := 0
      canonical := .inr (by decide)
      bounded := by decide }
  positive := by decide

/-- The least number above the hundredth power of ten; it has one digit more than the precision. -/
def Decimal.long : Decimal where
  coefficient := 10 ^ 100 + 1
  exponent := 0
  canonical := .inr (by norm_num)
  bounded := by
    have place : leadingPlace (((10 ^ 100 + 1 : ℤ) : ℚ) * 10 ^ (0 : ℤ)) = 100 :=
      leadingPlace_eq (by norm_num) (by norm_num)
    rw [leadingPlace_scaled (by norm_num)] at place
    rw [place]
    decide

theorem Decimal.value_long : Decimal.long.value = 10 ^ 100 + 1 := by
  norm_num [Decimal.value, Decimal.long]

theorem kept_long : kept (10 ^ 100 + 1) = 10 ^ 100 := by
  have place : leadingPlace (10 ^ 100 + 1) = 100 :=
    leadingPlace_eq (by norm_num) (by norm_num)
  have last : lastPlace Decimal.precision (10 ^ 100 + 1) = 1 := by
    rw [lastPlace, place, Decimal.precision]
    norm_num
  have floor : ⌊((10 ^ 100 + 1) / 10 ^ (1 : ℤ) + 1 / 2 : ℚ)⌋ = 10 ^ 99 := by
    rw [Int.floor_eq_iff]
    norm_num
  have nearest : rounded Decimal.precision (10 ^ 100 + 1) = 10 ^ 100 := by
    rw [rounded_of_pos (by norm_num), last, nearestMultiple, floor]
    norm_num
  have power : leadingPlace (10 ^ 100) = 100 := leadingPlace_eq (by norm_num) (by norm_num)
  have large : -Decimal.exponentLimit ≤ leadingPlace (10 ^ 100) := by
    rw [power]
    decide
  rw [kept, nearest, flushed_eq_self large]

namespace SalaryScale

theorem base_unit : unit.base.value = 1 := by
  norm_num [unit, Decimal.value]

theorem multiple_unit (ratio : Decimal) : unit.multiple ratio = ratio.value := by
  rw [multiple, base_unit, mul_one]

/-- The salary that is exactly the ratio is found to be above it. -/
theorem long_salary_exceeds_itself :
    (unit.compare? .long .long).map signOf = some 1 ∧
      SignType.sign (Decimal.long.value / unit.base.value - Decimal.long.value) = 0 ∧
      unit.RoundsAcross .long .long ∧ ¬HasDigits Decimal.precision (unit.multiple .long) := by
  obtain ⟨exact_iff, unmoved, -, -⟩ := comparison_exact_iff unit .long .long
  have greater : unit.compare? .long .long = some .gt := by
    rw [compare_eq_gt_iff, multiple_unit, Decimal.value_long, kept_long]
    norm_num
  have found : (unit.compare? .long .long).map signOf = some 1 := by rw [greater]; rfl
  have exact : SignType.sign (Decimal.long.value / unit.base.value - Decimal.long.value) = 0 := by
    rw [base_unit, div_one, sub_self, sign_zero]
  have across : unit.RoundsAcross .long .long := by
    by_contra still
    rw [found, exact] at exact_iff
    cases exact_iff.mpr still
  have nonzero : Decimal.long.value ≠ 0 := by norm_num [Decimal.value_long]
  exact ⟨found, exact, across, fun fits => unmoved fits (.inl nonzero) across⟩

end SalaryScale

end Eligibility
