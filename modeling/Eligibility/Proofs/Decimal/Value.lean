import Eligibility.Decimal.Arithmetic
import Eligibility.Proofs.Scaling
import Mathlib.Data.Int.Log
import Mathlib.Data.Rat.Floor
import Mathlib.Data.Sign.Basic
import Mathlib.Order.Interval.Set.UnorderedInterval
import Mathlib.Tactic.FieldSimp
import Mathlib.Tactic.Linarith
import Mathlib.Tactic.NormNum
import Mathlib.Tactic.Positivity
import Mathlib.Tactic.Ring

/-!
# Decimals as numbers

A decimal stands for a rational number, and no two decimals for the same one.  The order of two
decimals is the order of their numbers, however far apart their exponents are.
-/

set_option autoImplicit false

namespace Eligibility

/-! ## The place of the first digit -/

def leadingPlace (number : ℚ) : ℤ :=
  Int.log 10 |number|

section Places
variable {number : ℚ} {place : ℤ}

theorem zpow_ten_pos (place : ℤ) : (0 : ℚ) < 10 ^ place :=
  zpow_pos (by norm_num) place

theorem zpow_ten_le_iff {first second : ℤ} :
    (10 : ℚ) ^ first ≤ 10 ^ second ↔ first ≤ second :=
  zpow_le_zpow_iff_right₀ (by norm_num)

theorem zpow_le_abs_iff (nonzero : number ≠ 0) :
    (10 : ℚ) ^ place ≤ |number| ↔ place ≤ leadingPlace number := by
  have ten : ((10 : ℕ) : ℚ) = 10 := Nat.cast_ofNat
  rw [leadingPlace, ← Int.zpow_le_iff_le_log (by norm_num) (abs_pos.mpr nonzero), ten]

theorem abs_lt_zpow_iff (nonzero : number ≠ 0) :
    |number| < (10 : ℚ) ^ place ↔ leadingPlace number < place := by
  rw [← not_le, zpow_le_abs_iff nonzero, not_le]

theorem zpow_leadingPlace_le (nonzero : number ≠ 0) :
    (10 : ℚ) ^ leadingPlace number ≤ |number| :=
  (zpow_le_abs_iff nonzero).mpr le_rfl

theorem abs_lt_zpow_leadingPlace (nonzero : number ≠ 0) :
    |number| < (10 : ℚ) ^ (leadingPlace number + 1) :=
  (abs_lt_zpow_iff nonzero).mpr (Int.lt_succ _)

theorem leadingPlace_eq (lower : (10 : ℚ) ^ place ≤ |number|)
    (upper : |number| < (10 : ℚ) ^ (place + 1)) : leadingPlace number = place := by
  have nonzero : number ≠ 0 := abs_pos.mp ((zpow_ten_pos place).trans_le lower)
  have atLeast := (zpow_le_abs_iff nonzero).mp lower
  have atMost := (abs_lt_zpow_iff nonzero).mp upper
  omega

@[simp]
theorem leadingPlace_neg (number : ℚ) : leadingPlace (-number) = leadingPlace number := by
  rw [leadingPlace, leadingPlace, abs_neg]

theorem leadingPlace_mono {first second : ℚ} (nonzero : first ≠ 0) (le : |first| ≤ |second|) :
    leadingPlace first ≤ leadingPlace second :=
  Int.log_mono_right (abs_pos.mpr nonzero) le

theorem leadingPlace_mul_zpow (nonzero : number ≠ 0) (shift : ℤ) :
    leadingPlace (number * 10 ^ shift) = leadingPlace number + shift := by
  have ten : (10 : ℚ) ≠ 0 := by norm_num
  have positive := zpow_ten_pos shift
  apply leadingPlace_eq
  · rw [abs_mul, abs_of_pos positive, zpow_add₀ ten]
    exact mul_le_mul_of_nonneg_right (zpow_leadingPlace_le nonzero) positive.le
  · rw [abs_mul, abs_of_pos positive, add_right_comm, zpow_add₀ ten _ shift]
    exact mul_lt_mul_of_pos_right (abs_lt_zpow_leadingPlace nonzero) positive

theorem leadingPlace_div_bounds {numerator denominator : ℚ} (numeratorNonzero : numerator ≠ 0)
    (denominatorNonzero : denominator ≠ 0) :
    (10 : ℚ) ^ (leadingPlace numerator - leadingPlace denominator - 1) ≤
        |numerator / denominator| ∧
      |numerator / denominator| <
        10 ^ (leadingPlace numerator - leadingPlace denominator + 1) := by
  have ten : (10 : ℚ) ≠ 0 := by norm_num
  rw [abs_div]
  constructor
  · rw [sub_sub, zpow_sub₀ ten]
    exact div_le_div₀ (abs_nonneg _) (zpow_leadingPlace_le numeratorNonzero)
      (abs_pos.mpr denominatorNonzero) (abs_lt_zpow_leadingPlace denominatorNonzero).le
  · rw [sub_add_eq_add_sub, zpow_sub₀ ten]
    exact div_lt_div₀ (abs_lt_zpow_leadingPlace numeratorNonzero)
      (zpow_leadingPlace_le denominatorNonzero) (zpow_ten_pos _).le (zpow_ten_pos _)

end Places

/-! ## Digits -/

theorem digitCount_pos (number : ℕ) : 0 < digitCount number := by
  rw [digitCount_eq]
  exact Nat.length_toDigits_pos

theorem digitCount_le_iff {number places : ℕ} (some : 0 < places) :
    digitCount number ≤ places ↔ number < 10 ^ places := by
  rw [digitCount_eq]
  exact Nat.length_toDigits_le_iff (by norm_num) some

theorem lt_pow_digitCount (number : ℕ) : number < 10 ^ digitCount number :=
  (digitCount_le_iff (digitCount_pos number)).mp le_rfl

theorem pow_digitCount_le {number : ℕ} (nonzero : number ≠ 0) :
    10 ^ (digitCount number - 1) ≤ number := by
  by_cases single : digitCount number - 1 = 0
  · rw [single, pow_zero]
    exact Nat.one_le_iff_ne_zero.mpr nonzero
  · by_contra! less
    have fewer := (digitCount_le_iff (Nat.pos_of_ne_zero single)).mpr less
    omega

theorem leadingPlace_natCast {number : ℕ} (nonzero : number ≠ 0) :
    leadingPlace (number : ℚ) = (digitCount number : ℤ) - 1 := by
  have count := digitCount_pos number
  have lower : ((10 ^ (digitCount number - 1) : ℕ) : ℚ) ≤ number :=
    Nat.cast_le.mpr (pow_digitCount_le nonzero)
  have upper : (number : ℚ) < ((10 ^ digitCount number : ℕ) : ℚ) :=
    Nat.cast_lt.mpr (lt_pow_digitCount number)
  push_cast at lower upper
  have before : (digitCount number : ℤ) - 1 = (digitCount number - 1 : ℕ) := by omega
  apply leadingPlace_eq
  · rw [Nat.abs_cast, before, zpow_natCast]
    exact lower
  · rw [Nat.abs_cast, sub_add_cancel, zpow_natCast]
    exact upper

/-- The first digit of a coefficient and an exponent of ten stands where it is said to. -/
theorem leadingPlace_scaled {coefficient : ℤ} (nonzero : coefficient ≠ 0) (exponent : ℤ) :
    leadingPlace (coefficient * 10 ^ exponent) = leadingExponent coefficient exponent := by
  have magnitude : leadingPlace (coefficient : ℚ) = leadingPlace (coefficient.natAbs : ℚ) := by
    rw [leadingPlace, leadingPlace, Nat.abs_cast, Nat.cast_natAbs, Int.cast_abs]
  rw [leadingPlace_mul_zpow (Int.cast_ne_zero.mpr nonzero), magnitude,
    leadingPlace_natCast (Int.natAbs_ne_zero.mpr nonzero), leadingExponent]
  omega

theorem scaled_neg_iff (coefficient exponent : ℤ) :
    (coefficient * 10 ^ exponent : ℚ) < 0 ↔ coefficient < 0 := by
  rw [← Int.cast_lt_zero (R := ℚ)]
  exact ⟨fun less => neg_of_mul_neg_left less (zpow_ten_pos exponent).le,
    fun less => mul_neg_of_neg_of_pos less (zpow_ten_pos exponent)⟩

/-! ## Signs -/

def signOf : Ordering → SignType
  | .lt => -1
  | .eq => 0
  | .gt => 1

theorem signOf_eq_neg_iff {order : Ordering} : signOf order = -1 ↔ order = .lt := by
  cases order <;> decide

theorem signOf_eq_zero_iff {order : Ordering} : signOf order = 0 ↔ order = .eq := by
  cases order <;> decide

theorem signOf_eq_one_iff {order : Ordering} : signOf order = 1 ↔ order = .gt := by
  cases order <;> decide

theorem isGE_iff_signOf {order : Ordering} : order.isGE = true ↔ 0 ≤ signOf order := by
  cases order <;> decide

theorem isLE_iff_signOf {order : Ordering} : order.isLE = true ↔ signOf order ≤ 0 := by
  cases order <;> decide

theorem signOf_compare_nat (left right : ℕ) :
    signOf (compare left right) = SignType.sign ((left : ℚ) - right) := by
  rcases lt_trichotomy left right with less | rfl | greater
  · have negative : (left : ℚ) - right < 0 := sub_neg.mpr (Nat.cast_lt.mpr less)
    rw [Nat.compare_eq_lt.mpr less, sign_neg negative]
    rfl
  · rw [Nat.compare_eq_eq.mpr rfl, sub_self, sign_zero]
    rfl
  · have positive : (0 : ℚ) < left - right := sub_pos.mpr (Nat.cast_lt.mpr greater)
    rw [Nat.compare_eq_gt.mpr greater, sign_pos positive]
    rfl

theorem sign_mul_of_pos {factor : ℚ} (positive : 0 < factor) (number : ℚ) :
    SignType.sign (number * factor) = SignType.sign number := by
  rw [sign_mul, sign_pos positive, mul_one]

theorem sign_sub_eq_iff_of_lt {number first second : ℚ} (less : first < second) :
    SignType.sign (number - first) = SignType.sign (number - second) ↔
      number ∉ Set.Icc first second := by
  rcases lt_or_ge number first with before | fromFirst
  · rw [sign_neg (sub_neg.mpr before), sign_neg (sub_neg.mpr (before.trans less))]
    exact iff_of_true rfl fun between => before.not_ge between.1
  rcases lt_or_ge second number with after | toSecond
  · rw [sign_pos (sub_pos.mpr after), sign_pos (sub_pos.mpr (less.trans after))]
    exact iff_of_true rfl fun between => after.not_ge between.2
  · refine iff_of_false (fun same => ?_) (fun outside => outside ⟨fromFirst, toSecond⟩)
    have nonneg : 0 ≤ SignType.sign (number - first) :=
      sign_nonneg_iff.mpr (sub_nonneg.mpr fromFirst)
    have nonpos : SignType.sign (number - second) ≤ 0 :=
      sign_nonpos_iff.mpr (sub_nonpos.mpr toSecond)
    have atFirst : number - first = 0 := sign_eq_zero_iff.mp (le_antisymm (same ▸ nonpos) nonneg)
    have atSecond : number - second = 0 := sign_eq_zero_iff.mp (le_antisymm nonpos (same ▸ nonneg))
    linarith

/-- A number is on the same side of two others unless it lies between them. -/
theorem sign_sub_eq_iff {number first second : ℚ} :
    SignType.sign (number - first) = SignType.sign (number - second) ↔
      ¬(first ≠ second ∧ number ∈ Set.uIcc first second) := by
  rcases lt_trichotomy first second with less | rfl | greater
  · rw [sign_sub_eq_iff_of_lt less, Set.uIcc_of_lt less, and_iff_right less.ne]
  · simp
  · rw [eq_comm, sign_sub_eq_iff_of_lt greater, Set.uIcc_of_gt greater, and_iff_right greater.ne']

namespace Decimal

/-! ## Numbers -/

def value (decimal : Decimal) : ℚ :=
  decimal.coefficient * 10 ^ decimal.exponent

variable (left right : Decimal)

@[simp]
theorem value_zero : zero.value = 0 := by
  simp [value, zero]

theorem value_eq_zero_iff : left.value = 0 ↔ left.coefficient = 0 := by
  rw [value, mul_eq_zero_iff_right (zpow_ten_pos _).ne', Int.cast_eq_zero]

theorem value_pos_iff : 0 < left.value ↔ 0 < left.coefficient := by
  rw [value, mul_pos_iff_of_pos_right (zpow_ten_pos _), Int.cast_pos]

theorem value_neg_iff : left.value < 0 ↔ left.coefficient < 0 :=
  scaled_neg_iff left.coefficient left.exponent

theorem leadingPlace_value (nonzero : left.coefficient ≠ 0) :
    leadingPlace left.value = left.leading :=
  leadingPlace_scaled nonzero left.exponent

theorem leadingPlace_bounded (nonzero : left.value ≠ 0) :
    -exponentLimit ≤ leadingPlace left.value ∧ leadingPlace left.value ≤ exponentLimit := by
  rw [leadingPlace_value left (mt (value_eq_zero_iff left).mpr nonzero)]
  exact left.bounded

theorem abs_value_lt : |left.value| < 10 ^ (exponentLimit + 1) := by
  by_cases zero : left.value = 0
  · rw [zero, abs_zero]
    exact zpow_ten_pos _
  · exact (abs_lt_zpow_iff zero).mpr (Int.lt_add_one_of_le (leadingPlace_bounded left zero).2)

/-! ## The order -/

theorem abs_value_eq_raise {unit : ℤ} (below : unit ≤ left.exponent) :
    |left.value| = raise 10 left.coefficient.natAbs (left.exponent - unit) * 10 ^ unit := by
  rw [value, abs_mul, abs_of_pos (zpow_ten_pos _), cast_raise, Nat.cast_ofNat, mul_assoc,
    ← zpow_natCast, ← zpow_add₀ (by norm_num), Nat.cast_natAbs, Int.cast_abs]
  congr 2
  omega

theorem signOf_magnitudeOrder (leftNonzero : left.coefficient ≠ 0)
    (rightNonzero : right.coefficient ≠ 0) :
    signOf (magnitudeOrder left right) = SignType.sign (|left.value| - |right.value|) := by
  have leftNumber := mt (value_eq_zero_iff left).mp leftNonzero
  have rightNumber := mt (value_eq_zero_iff right).mp rightNonzero
  have leftPlace := leadingPlace_value left leftNonzero
  have rightPlace := leadingPlace_value right rightNonzero
  rw [magnitudeOrder]
  rcases lt_trichotomy left.leading right.leading with less | same | greater
  · -- a number with its first digit further right is less
    have apart : |left.value| < |right.value| :=
      ((abs_lt_zpow_iff leftNumber).mpr (by rwa [leftPlace])).trans_le
        ((zpow_le_abs_iff rightNumber).mpr rightPlace.ge)
    rw [compare_lt_iff_lt.mpr less, sign_neg (sub_neg.mpr apart)]
    rfl
  · rw [compare_eq_iff_eq.mpr same,
      abs_value_eq_raise left (min_le_left left.exponent right.exponent),
      abs_value_eq_raise right (min_le_right left.exponent right.exponent), ← sub_mul,
      sign_mul_of_pos (zpow_ten_pos _)]
    exact signOf_compare_nat _ _
  · have apart : |right.value| < |left.value| :=
      ((abs_lt_zpow_iff rightNumber).mpr (by rwa [rightPlace])).trans_le
        ((zpow_le_abs_iff leftNumber).mpr leftPlace.ge)
    rw [compare_gt_iff_gt.mpr greater, sign_pos (sub_pos.mpr apart)]
    rfl

theorem value_lt_of_sign_lt (less : left.coefficient.sign < right.coefficient.sign) :
    left.value < right.value := by
  by_cases rightPos : 0 < right.coefficient
  · have leftNonpos : ¬0 < left.value := by
      rw [value_pos_iff]
      intro leftPos
      rw [Int.sign_eq_one_of_pos leftPos, Int.sign_eq_one_of_pos rightPos] at less
      exact lt_irrefl _ less
    exact (not_lt.mp leftNonpos).trans_lt ((value_pos_iff right).mpr rightPos)
  · have rightNonneg : ¬right.value < 0 := by
      rw [value_neg_iff]
      intro rightNeg
      rw [Int.sign_eq_neg_one_of_neg rightNeg] at less
      rcases Int.sign_trichotomy left.coefficient with sign | sign | sign <;> omega
    have rightSign : right.coefficient.sign ≤ 0 := Int.sign_nonpos_iff.mpr (not_lt.mp rightPos)
    have leftNeg : left.coefficient < 0 := Int.sign_neg_iff.mp (less.trans_le rightSign)
    exact ((value_neg_iff left).mpr leftNeg).trans_le (not_lt.mp rightNonneg)

/-- Comparison is exact. -/
theorem signOf_order : signOf (left.order right) = SignType.sign (left.value - right.value) := by
  rw [order]
  rcases lt_trichotomy left.coefficient.sign right.coefficient.sign with less | same | greater
  · rw [compare_lt_iff_lt.mpr less, sign_neg (sub_neg.mpr (value_lt_of_sign_lt left right less))]
    rfl
  · rw [compare_eq_iff_eq.mpr same]
    rcases lt_trichotomy left.coefficient 0 with leftNeg | leftZero | leftPos
    · have rightNeg : right.coefficient < 0 := by
        rwa [← Int.sign_neg_iff, ← same, Int.sign_neg_iff]
      rw [if_neg leftNeg.ne, if_pos leftNeg,
        signOf_magnitudeOrder right left rightNeg.ne leftNeg.ne,
        abs_of_neg ((value_neg_iff left).mpr leftNeg),
        abs_of_neg ((value_neg_iff right).mpr rightNeg), neg_sub_neg]
    · have rightZero : right.coefficient = 0 := by
        rwa [← Int.sign_eq_zero_iff_zero, ← same, Int.sign_eq_zero_iff_zero]
      rw [if_pos leftZero, (value_eq_zero_iff left).mpr leftZero,
        (value_eq_zero_iff right).mpr rightZero, sub_self, sign_zero]
      rfl
    · have rightPos : 0 < right.coefficient := by
        rwa [← Int.sign_pos_iff, ← same, Int.sign_pos_iff]
      rw [if_neg leftPos.ne', if_neg leftPos.not_gt,
        signOf_magnitudeOrder left right leftPos.ne' rightPos.ne',
        abs_of_pos ((value_pos_iff left).mpr leftPos),
        abs_of_pos ((value_pos_iff right).mpr rightPos)]
  · rw [compare_gt_iff_gt.mpr greater,
      sign_pos (sub_pos.mpr (value_lt_of_sign_lt right left greater))]
    rfl

/-! ## One decimal for each number -/

theorem exponent_le_of_value_eq (same : left.value = right.value)
    (leftNonzero : left.coefficient ≠ 0) : right.exponent ≤ left.exponent := by
  by_contra! less
  -- otherwise the left coefficient ends in a zero
  have scaled : left.coefficient =
      right.coefficient * 10 ^ (right.exponent - left.exponent).toNat := by
    have places : (10 : ℚ) ^ right.exponent =
        10 ^ (right.exponent - left.exponent).toNat * 10 ^ left.exponent := by
      rw [← zpow_natCast, ← zpow_add₀ (by norm_num)]
      congr 1
      omega
    rw [value, value, places, ← mul_assoc] at same
    exact_mod_cast mul_right_cancel₀ (zpow_ten_pos _).ne' same
  obtain ⟨places, more⟩ : ∃ places, (right.exponent - left.exponent).toNat = places + 1 :=
    ⟨(right.exponent - left.exponent).toNat - 1, by omega⟩
  rw [more, pow_succ, ← mul_assoc] at scaled
  rcases left.canonical with ⟨leftZero, -⟩ | endsInDigit
  · exact leftNonzero leftZero
  · exact endsInDigit (by rw [scaled, Int.mul_emod_left])

theorem exponent_of_zero (isZero : left.coefficient = 0) : left.exponent = 0 := by
  rcases left.canonical with ⟨-, zero⟩ | endsInDigit
  · exact zero
  · exact absurd (by rw [isZero]; rfl) endsInDigit

theorem value_injective : Function.Injective value := by
  intro left right same
  have zeros : left.coefficient = 0 ↔ right.coefficient = 0 := by
    rw [← value_eq_zero_iff, same, value_eq_zero_iff]
  have exponents : left.exponent = right.exponent := by
    by_cases leftZero : left.coefficient = 0
    · rw [exponent_of_zero left leftZero, exponent_of_zero right (zeros.mp leftZero)]
    · exact le_antisymm (exponent_le_of_value_eq right left same.symm (mt zeros.mpr leftZero))
        (exponent_le_of_value_eq left right same leftZero)
  have coefficients : left.coefficient = right.coefficient := by
    rw [value, value, exponents] at same
    exact_mod_cast mul_right_cancel₀ (zpow_ten_pos _).ne' same
  cases left
  cases right
  congr

end Decimal

end Eligibility
