import Eligibility.Proofs.Decimal.Rounding

/-!
# Results of decimal arithmetic

A product or a quotient is the exact result, rounded to the precision and then kept within the
limits of the exponent.  To a comparison with a decimal only one thing of that is visible besides
the rounding: what is too small has become zero.  An infinity stands where the number stood.
-/

set_option autoImplicit false

namespace Eligibility

/-! ## Numbers below the limit -/

/-- The number, or zero in place of one whose first digit lies below the limit of the exponent. -/
def flushed (number : ℚ) : ℚ :=
  if |number| < 10 ^ (-Decimal.exponentLimit) then 0 else number

def kept (number : ℚ) : ℚ :=
  flushed (rounded Decimal.precision number)

theorem precision_pos : 0 < Decimal.precision := by
  decide

theorem flushed_monotone : Monotone flushed := by
  apply monotone_of_odd_of_monotoneOn_nonneg
  · intro number
    rw [flushed, flushed, abs_neg]
    split <;> simp
  · intro first firstNonneg second secondNonneg le
    rw [flushed, flushed, abs_of_nonneg firstNonneg, abs_of_nonneg secondNonneg]
    split
    · split
      · exact le_rfl
      · exact secondNonneg
    · next firstLarge =>
      rw [if_neg (not_lt.mpr ((not_lt.mp firstLarge).trans le))]
      exact le

theorem kept_monotone : Monotone kept :=
  flushed_monotone.comp (rounded_monotone precision_pos)

/-- The number can be written with so many significant digits. -/
def HasDigits (digits : ℕ) (number : ℚ) : Prop :=
  ∃ coefficient exponent : ℤ, coefficient.natAbs < 10 ^ digits ∧
    number = coefficient * 10 ^ exponent

theorem rounded_of_hasDigits {digits : ℕ} {number : ℚ} (fits : HasDigits digits number) :
    rounded digits number = number := by
  obtain ⟨coefficient, exponent, few, rfl⟩ := fits
  exact rounded_eq_self few exponent

theorem flushed_eq_self {number : ℚ} (large : -Decimal.exponentLimit ≤ leadingPlace number) :
    flushed number = number := by
  by_cases zero : number = 0
  · simp [flushed, zero]
  · rw [flushed, if_neg (not_lt.mpr ((zpow_le_abs_iff zero).mpr large))]

theorem kept_eq_self {number : ℚ} (fits : HasDigits Decimal.precision number)
    (large : -Decimal.exponentLimit ≤ leadingPlace number) : kept number = number := by
  rw [kept, rounded_of_hasDigits fits, flushed_eq_self large]

namespace Decimal

/-! ## Decimals by coefficient and exponent -/

theorem dropEachZero_value (coefficient exponent : ℤ) :
    ((dropEachZero coefficient exponent).1 * 10 ^ (dropEachZero coefficient exponent).2 : ℚ) =
      coefficient * 10 ^ exponent := by
  fun_induction dropEachZero coefficient exponent with
  | case1 coefficient exponent ends induction =>
      have whole : ((coefficient / 10 * 10 : ℤ) : ℚ) = coefficient :=
        congrArg _ (Int.ediv_mul_cancel_of_emod_eq_zero ends.2)
      rw [induction, zpow_add_one₀ (by norm_num), ← whole]
      push_cast
      ring
  | case2 coefficient exponent ends => rfl

theorem exponentLimit_nonneg : 0 ≤ exponentLimit := by
  decide

end Decimal

namespace ExtendedDecimal

open Decimal (exponentLimit precision)

theorem ofScaled_zero (exponent : ℤ) : ofScaled 0 exponent = .finite .zero := by
  rw [ofScaled, dif_neg (not_not.mpr rfl)]

/-- A decimal by coefficient and exponent is that number, or zero below the limit of the exponent,
or an infinity above it. -/
theorem ofScaled_cases {coefficient : ℤ} (nonzero : coefficient ≠ 0) (exponent : ℤ) {number : ℚ}
    (isNumber : (coefficient * 10 ^ exponent : ℚ) = number) :
    (-exponentLimit ≤ leadingPlace number ∧
        ∃ decimal, ofScaled coefficient exponent = .finite decimal ∧ decimal.value = number) ∨
      (leadingPlace number < -exponentLimit ∧ ofScaled coefficient exponent = .finite .zero) ∨
      (exponentLimit < leadingPlace number ∧
        ofScaled coefficient exponent = .infinite (decide (number < 0))) := by
  have sameNumber : ((Decimal.dropZeros coefficient exponent).1 *
      10 ^ (Decimal.dropZeros coefficient exponent).2 : ℚ) = number := by
    rw [Decimal.dropZeros_eq _ _ nonzero, Decimal.dropEachZero_value, isNumber]
  have place := leadingPlace_scaled (Decimal.dropZeros_ne_zero _ exponent nonzero)
    (Decimal.dropZeros coefficient exponent).2
  rw [sameNumber] at place
  have limit := Decimal.exponentLimit_nonneg
  rw [ofScaled, dif_pos nonzero]
  simp only [← place]
  split
  · next within => exact .inl ⟨within.1, _, rfl, sameNumber⟩
  · next outside =>
      split
      · next small => exact .inr (.inl ⟨by omega, rfl⟩)
      · next large =>
          refine .inr (.inr ⟨by omega, ?_⟩)
          congr 2
          rw [← isNumber, scaled_neg_iff]

/-- A comparison sees the number, and zero in place of what is too small. -/
theorem signOf_orderTo?_ofScaled (left : Decimal) (coefficient exponent : ℤ) :
    (left.orderTo? (ofScaled coefficient exponent)).map signOf =
      some (SignType.sign (left.value - flushed (coefficient * 10 ^ exponent))) := by
  by_cases zero : coefficient = 0
  · rw [zero, ofScaled_zero, Decimal.orderTo?, Option.map_some, Decimal.signOf_order]
    simp [flushed]
  · generalize isNumber : (coefficient * 10 ^ exponent : ℚ) = number
    have nonzero : number ≠ 0 := by
      rw [← isNumber]
      exact mul_ne_zero (Int.cast_ne_zero.mpr zero) (zpow_ten_pos exponent).ne'
    rcases ofScaled_cases zero exponent isNumber with
      ⟨atLeast, decimal, made, sameNumber⟩ | ⟨below, made⟩ | ⟨above, made⟩
    · have large := not_lt.mpr ((zpow_le_abs_iff nonzero).mpr atLeast)
      rw [made, Decimal.orderTo?, Option.map_some, Decimal.signOf_order, sameNumber, flushed,
        if_neg large]
    · rw [made, Decimal.orderTo?, Option.map_some, Decimal.signOf_order, Decimal.value_zero,
        flushed, if_pos ((abs_lt_zpow_iff nonzero).mpr below)]
    · have large : (10 : ℚ) ^ (exponentLimit + 1) ≤ |number| :=
        (zpow_le_abs_iff nonzero).mpr above
      have further := left.abs_value_lt.trans_le large
      have notSmall : ¬|number| < 10 ^ (-exponentLimit) := by
        have limit := Decimal.exponentLimit_nonneg
        exact not_lt.mpr ((zpow_ten_le_iff.mpr (by omega)).trans large)
      obtain ⟨leftLower, leftUpper⟩ := abs_lt.mp further
      rw [made, Decimal.orderTo?, Option.map_some, flushed, if_neg notSmall]
      rcases lt_or_gt_of_ne nonzero with negative | positive
      · rw [abs_of_neg negative] at leftLower
        rw [decide_eq_true negative, sign_pos (by linarith)]
        rfl
      · rw [abs_of_pos positive] at leftUpper
        rw [decide_eq_false positive.not_gt, sign_neg (by linarith)]
        rfl

/-! ## Products and quotients -/

/-- The result is a number, rounded to the precision and kept within the limits. -/
def IsRoundingOf (number : ℚ) (result : ExtendedDecimal) : Prop :=
  ∃ coefficient exponent : ℤ, result = ofScaled coefficient exponent ∧
    (coefficient * 10 ^ exponent : ℚ) = rounded precision number

theorem isRoundingOf_zero : IsRoundingOf 0 (.finite .zero) :=
  ⟨0, 0, (ofScaled_zero 0).symm, by simp⟩

theorem signOf_orderTo?_of_isRoundingOf {number : ℚ} {result : ExtendedDecimal}
    (isRounding : IsRoundingOf number result) (left : Decimal) :
    (left.orderTo? result).map signOf = some (SignType.sign (left.value - kept number)) := by
  obtain ⟨coefficient, exponent, rfl, isNumber⟩ := isRounding
  rw [signOf_orderTo?_ofScaled, isNumber, kept]

theorem orderTo?_eq_iff (left : Decimal) (result : ExtendedDecimal) :
    left.orderTo? result = some .eq ↔ result = .finite left := by
  cases result with
  | finite right =>
      rw [Decimal.orderTo?, Option.some.injEq, ← signOf_eq_zero_iff, Decimal.signOf_order,
        sign_eq_zero_iff, sub_eq_zero, Decimal.value_injective.eq_iff, finite.injEq, eq_comm]
  | infinite negative => cases negative <;> simp [Decimal.orderTo?]
  | notANumber => simp [Decimal.orderTo?]

end ExtendedDecimal

namespace Decimal

open ExtendedDecimal (IsRoundingOf)

variable (left right : Decimal)

theorem leadingPlace_value_ge : -exponentLimit ≤ leadingPlace left.value := by
  by_cases zero : left.value = 0
  · rw [zero, leadingPlace, abs_zero, Int.log_zero_right]
    exact neg_nonpos.mpr exponentLimit_nonneg
  · exact (leadingPlace_bounded left zero).1

theorem kept_value (few : digitCount left.coefficient.natAbs ≤ precision) :
    kept left.value = left.value := by
  refine kept_eq_self ⟨left.coefficient, left.exponent, ?_, rfl⟩ left.leadingPlace_value_ge
  exact (digitCount_le_iff precision_pos).mp few

theorem product_isRounding : IsRoundingOf (left.value * right.value) (left.product right) := by
  rw [product]
  simp only
  split
  · next zero =>
    have number : left.value * right.value = 0 := by
      rcases mul_eq_zero.mp zero with leftZero | rightZero
      · rw [(value_eq_zero_iff left).mpr leftZero, zero_mul]
      · rw [(value_eq_zero_iff right).mpr rightZero, mul_zero]
    rw [number]
    exact ExtendedDecimal.isRoundingOf_zero
  · next nonzero =>
    refine ⟨_, _, rfl, ?_⟩
    have exact := roundSignificant_signed precision nonzero one_ne_zero
      (left.exponent + right.exponent)
    have number : left.value * right.value = ((left.coefficient * right.coefficient : ℤ) : ℚ) /
        ((1 : ℤ) : ℚ) * 10 ^ (left.exponent + right.exponent) := by
      rw [value, value, zpow_add₀ (by norm_num)]
      push_cast
      ring
    rw [number, ← exact]
    simp

theorem quotient_isRounding (nonzero : right.coefficient ≠ 0) :
    IsRoundingOf (left.value / right.value) (left.quotient right) := by
  rw [quotient, if_neg nonzero]
  split
  · next zero =>
    rw [(value_eq_zero_iff left).mpr zero, zero_div]
    exact ExtendedDecimal.isRoundingOf_zero
  · next leftNonzero =>
    refine ⟨_, _, rfl, ?_⟩
    rw [roundSignificant_signed precision leftNonzero nonzero, value, value,
      zpow_sub₀ (by norm_num), mul_div_mul_comm]

end Decimal

end Eligibility
