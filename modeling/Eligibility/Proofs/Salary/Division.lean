import Eligibility.Proofs.Salary.Comparison

/-!
# Salaries divided by the base

The ratio of a salary is a rounded quotient, and a comparison is made by multiplication.  Where the
product is exact, the ratio of the threshold is among the numbers that rounding leaves as they are.
So the quotient may be rounded onto the threshold but never across it.
-/

set_option autoImplicit false

namespace Eligibility

namespace SalaryScale

variable (scale : SalaryScale) (salary ratio : Decimal)

theorem normalize_isRounding : ExtendedDecimal.IsRoundingOf
    (salary.value / scale.base.value) (scale.normalize salary) :=
  Decimal.quotient_isRounding salary scale.base
    (mt scale.base.value_eq_zero_iff.mpr scale.base_pos.ne')

theorem sign_ratio_sub_normalize : (ratio.orderTo? (scale.normalize salary)).map signOf =
    some (SignType.sign (ratio.value - kept (salary.value / scale.base.value))) :=
  ExtendedDecimal.signOf_orderTo?_of_isRoundingOf (scale.normalize_isRounding salary) ratio

/-! ## The ratio among the roundings -/

variable (few : digitCount ratio.coefficient.natAbs +
  digitCount scale.base.coefficient.natAbs ≤ Decimal.precision)

include few

theorem kept_ratio : kept ratio.value = ratio.value :=
  ratio.kept_value (by omega)

theorem ratio_lt_of_lt_kept (above : ratio.value < kept (salary.value / scale.base.value)) :
    ratio.value < salary.value / scale.base.value := by
  by_contra! atMost
  have rounding := kept_monotone atMost
  rw [kept_ratio scale ratio few] at rounding
  exact above.not_ge rounding

theorem lt_ratio_of_kept_lt (below : kept (salary.value / scale.base.value) < ratio.value) :
    salary.value / scale.base.value < ratio.value := by
  by_contra! atLeast
  have rounding := kept_monotone atLeast
  rw [kept_ratio scale ratio few] at rounding
  exact below.not_ge rounding

end SalaryScale

/-- The rounded quotient is above or below the ratio only if the comparison says so too, and it is
the ratio where the comparison says that they are equal. -/
theorem SalaryScale.quotient_never_contradicts_product (scale : SalaryScale)
    (salary ratio : Decimal)
    (few : digitCount ratio.coefficient.natAbs + digitCount scale.base.coefficient.natAbs ≤
      Decimal.precision)
    (within : -Decimal.exponentLimit ≤ leadingPlace (scale.multiple ratio) ∧
      leadingPlace (scale.multiple ratio) ≤ Decimal.exponentLimit) :
    (ratio.orderTo? (scale.normalize salary) = some .lt →
      scale.compare? salary ratio = some .gt) ∧
    (ratio.orderTo? (scale.normalize salary) = some .gt →
      scale.compare? salary ratio = some .lt) ∧
    (scale.compare? salary ratio = some .eq → scale.normalize salary = .finite ratio) := by
  have unmoved : ¬scale.RoundsAcross salary ratio :=
    scale.not_roundsAcross salary ratio (scale.hasDigits_multiple ratio few) (.inr within.1)
  obtain ⟨order, found, sign⟩ :=
    Option.map_eq_some_iff.mp (scale.sign_ratio_sub_normalize salary ratio)
  refine ⟨?_, ?_, ?_⟩
  · intro above
    rw [above] at found
    cases found
    have less := sub_neg.mp (sign_eq_neg_one_iff.mp sign.symm)
    rw [compare_eq_gt_iff, scale.kept_lt_iff salary ratio unmoved]
    exact scale.ratio_lt_of_lt_kept salary ratio few less
  · intro below
    rw [below] at found
    cases found
    have less := sub_pos.mp (sign_eq_one_iff.mp sign.symm)
    rw [compare_eq_lt_iff, scale.lt_kept_iff salary ratio unmoved]
    exact scale.lt_ratio_of_kept_lt salary ratio few less
  · intro equal
    have exact := (scale.compare_exact_iff salary ratio).mpr unmoved
    rw [equal] at exact
    have ratios : salary.value / scale.base.value = ratio.value :=
      sub_eq_zero.mp (sign_eq_zero_iff.mp (Option.some.inj exact).symm)
    rw [ratios, kept_ratio scale ratio few, sub_self, sign_zero, signOf_eq_zero_iff] at sign
    rw [← ExtendedDecimal.orderTo?_eq_iff, found, sign]

def Decimal.power : Decimal where
  coefficient := 1
  exponent := 100
  canonical := .inr (by decide)
  bounded := by decide

theorem Decimal.value_power : Decimal.power.value = 10 ^ 100 := by
  norm_num [Decimal.value, Decimal.power]

namespace SalaryScale

/-- The number after the power is divided to the power itself, and the comparison tells them
apart. -/
theorem long_salary_divided_to_power :
    unit.normalize .power = .finite .power ∧
      unit.base.orderTo? (unit.normalize .long) = some .lt ∧
      unit.compare? .long unit.base = some .gt ∧
      unit.normalize .long = .finite .power ∧ unit.compare? .long .power = some .gt := by
  have divided : ∀ salary : Decimal, salary.value / unit.base.value = salary.value := by
    intro salary
    rw [base_unit, div_one]
  have powerKept : kept Decimal.power.value = Decimal.power.value :=
    Decimal.power.kept_value (by decide)
  have within : ∀ ratio : Decimal, ratio.coefficient ≠ 0 →
      -Decimal.exponentLimit ≤ leadingPlace (unit.multiple ratio) ∧
        leadingPlace (unit.multiple ratio) ≤ Decimal.exponentLimit := by
    intro ratio nonzero
    rw [multiple_unit, Decimal.leadingPlace_value ratio nonzero]
    exact ratio.bounded
  have equal : unit.compare? .power .power = some .eq := by
    rw [compare_eq_eq_iff, multiple_unit, powerKept]
  have above : unit.base.orderTo? (unit.normalize .long) = some .lt := by
    obtain ⟨order, found, sign⟩ :=
      Option.map_eq_some_iff.mp (unit.sign_ratio_sub_normalize .long unit.base)
    rw [divided, base_unit, Decimal.value_long, kept_long, sign_neg (by norm_num),
      signOf_eq_neg_iff] at sign
    rw [found, sign]
  have rounded : unit.normalize .long = .finite .power := by
    obtain ⟨order, found, sign⟩ :=
      Option.map_eq_some_iff.mp (unit.sign_ratio_sub_normalize .long .power)
    rw [divided, Decimal.value_long, kept_long, Decimal.value_power, sub_self, sign_zero,
      signOf_eq_zero_iff] at sign
    rw [← ExtendedDecimal.orderTo?_eq_iff, found, sign]
  have apart : unit.compare? .long .power = some .gt := by
    rw [compare_eq_gt_iff, multiple_unit, powerKept, Decimal.value_long, Decimal.value_power]
    norm_num
  have powerAgrees := quotient_never_contradicts_product unit .power .power (by decide)
    (within .power (by decide))
  have baseAgrees := quotient_never_contradicts_product unit .long unit.base (by decide)
    (within unit.base (by decide))
  exact ⟨powerAgrees.2.2 equal, above, baseAgrees.1 above, rounded, apart⟩

end SalaryScale

end Eligibility
