import Eligibility.Proofs.Decimal.Value
import Mathlib.Order.Monotone.Odd

/-!
# Rounding to significant digits

Rounding a magnitude goes to the nearest multiple of the place of the last digit that is kept, a
half away from zero.  The place moves with the number, and still rounding keeps the order: a number
never crosses the power of ten at which the place moves.
-/

set_option autoImplicit false

namespace Eligibility

/-! ## Multiples of a power of ten -/

/-- The nearest multiple of a power of ten; of two, the greater one. -/
def nearestMultiple (place : ℤ) (number : ℚ) : ℚ :=
  ⌊number / 10 ^ place + 1 / 2⌋ * 10 ^ place

theorem nearestMultiple_mono (place : ℤ) : Monotone (nearestMultiple place) := by
  intro first second le
  have positive := zpow_ten_pos place
  have quotients : first / 10 ^ place + 1 / 2 ≤ second / 10 ^ place + 1 / 2 := by
    gcongr
  exact mul_le_mul_of_nonneg_right (Int.cast_le.mpr (Int.floor_mono quotients)) positive.le

theorem nearestMultiple_of_multiple {place shift : ℤ} (coarser : place ≤ shift)
    (coefficient : ℤ) :
    nearestMultiple place (coefficient * 10 ^ shift) = coefficient * 10 ^ shift := by
  have places : (10 : ℚ) ^ shift = ((10 ^ (shift - place).toNat : ℤ) : ℚ) * 10 ^ place := by
    push_cast
    rw [← zpow_natCast, ← zpow_add₀ (by norm_num)]
    congr 1
    omega
  rw [nearestMultiple, places, ← mul_assoc, ← Int.cast_mul,
    mul_div_cancel_right₀ _ (zpow_ten_pos place).ne', Int.floor_intCast_add]
  norm_num

theorem abs_nearestMultiple_sub_le (place : ℤ) (number : ℚ) :
    |nearestMultiple place number - number| ≤ 10 ^ place / 2 := by
  have positive := zpow_ten_pos place
  have lower := Int.floor_le (number / 10 ^ place + 1 / 2)
  have upper := Int.lt_floor_add_one (number / 10 ^ place + 1 / 2)
  have apart : nearestMultiple place number - number =
      (⌊number / 10 ^ place + 1 / 2⌋ - number / 10 ^ place) * 10 ^ place := by
    rw [nearestMultiple, sub_mul, div_mul_cancel₀ _ positive.ne']
  have near : |(⌊number / 10 ^ place + 1 / 2⌋ : ℚ) - number / 10 ^ place| ≤ 1 / 2 := by
    rw [abs_le]
    constructor <;> linarith
  rw [apart, abs_mul, abs_of_pos positive]
  calc _ ≤ 1 / 2 * (10 : ℚ) ^ place := mul_le_mul_of_nonneg_right near positive.le
    _ = 10 ^ place / 2 := by ring

theorem nearestMultiple_mul_zpow (place shift : ℤ) (number : ℚ) :
    nearestMultiple (place + shift) (number * 10 ^ shift) =
      nearestMultiple place number * 10 ^ shift := by
  rw [nearestMultiple, nearestMultiple, zpow_add₀ (by norm_num),
    mul_div_mul_right _ _ (zpow_ten_pos shift).ne', mul_assoc]

/-! ## Significant digits -/

def lastPlace (digits : ℕ) (number : ℚ) : ℤ :=
  leadingPlace number - digits + 1

/-- The number rounded to significant digits, a half away from zero. -/
def rounded (digits : ℕ) (number : ℚ) : ℚ :=
  SignType.sign number * nearestMultiple (lastPlace digits number) |number|

variable {digits : ℕ} {number : ℚ}

@[simp]
theorem rounded_zero (digits : ℕ) : rounded digits 0 = 0 := by
  simp [rounded]

@[simp]
theorem rounded_neg (digits : ℕ) (number : ℚ) :
    rounded digits (-number) = -rounded digits number := by
  simp [rounded, lastPlace, Left.sign_neg]

theorem rounded_of_pos (positive : 0 < number) :
    rounded digits number = nearestMultiple (lastPlace digits number) number := by
  rw [rounded, sign_pos positive, abs_of_pos positive, SignType.coe_one, one_mul]

theorem rounded_mul_zpow (digits : ℕ) (number : ℚ) (shift : ℤ) :
    rounded digits (number * 10 ^ shift) = rounded digits number * 10 ^ shift := by
  by_cases zero : number = 0
  · simp [zero]
  · have place : lastPlace digits (number * 10 ^ shift) = lastPlace digits number + shift := by
      rw [lastPlace, leadingPlace_mul_zpow zero, lastPlace]
      omega
    rw [rounded, rounded, sign_mul_of_pos (zpow_ten_pos shift), place, abs_mul,
      abs_of_pos (zpow_ten_pos shift), nearestMultiple_mul_zpow, mul_assoc]

theorem rounded_eq_sign_mul (digits : ℕ) (number : ℚ) :
    rounded digits number = SignType.sign number * rounded digits |number| := by
  rcases lt_trichotomy number 0 with negative | rfl | positive
  · rw [abs_of_neg negative, rounded_neg, sign_neg negative, SignType.coe_neg_one, neg_one_mul,
      neg_neg]
  · simp
  · rw [abs_of_pos positive, sign_pos positive, SignType.coe_one, one_mul]

theorem lastPlace_le (some : 0 < digits) (number : ℚ) :
    lastPlace digits number ≤ leadingPlace number := by
  rw [lastPlace]
  omega

/-- A number with no more digits than are kept stays as it is. -/
theorem rounded_eq_self {coefficient : ℤ} (fits : coefficient.natAbs < 10 ^ digits)
    (exponent : ℤ) :
    rounded digits (coefficient * 10 ^ exponent) = coefficient * 10 ^ exponent := by
  by_cases zero : coefficient = 0
  · simp [zero]
  · have some : 0 < digits := by
      by_contra none
      rw [Nat.eq_zero_of_not_pos none, pow_zero] at fits
      omega
    have few : digitCount coefficient.natAbs ≤ digits := (digitCount_le_iff some).mpr fits
    have coarser : lastPlace digits (coefficient * 10 ^ exponent) ≤ exponent := by
      rw [lastPlace, leadingPlace_scaled zero, leadingExponent]
      omega
    have magnitude : |(coefficient : ℚ) * 10 ^ exponent| =
        ((|coefficient| : ℤ) : ℚ) * 10 ^ exponent := by
      rw [abs_mul, abs_of_pos (zpow_ten_pos exponent), Int.cast_abs]
    rw [rounded, magnitude, nearestMultiple_of_multiple coarser, ← magnitude, sign_mul_abs]

theorem abs_rounded_sub_le (digits : ℕ) (number : ℚ) :
    |rounded digits number - number| ≤ 10 ^ lastPlace digits number / 2 := by
  rcases lt_trichotomy number 0 with negative | rfl | positive
  · have mirrored := rounded_neg digits (-number)
    rw [neg_neg, rounded_of_pos (neg_pos.mpr negative), lastPlace, leadingPlace_neg] at mirrored
    rw [mirrored, ← neg_add', abs_neg, ← sub_neg_eq_add]
    exact abs_nearestMultiple_sub_le _ _
  · rw [rounded_zero, sub_zero, abs_zero]
    exact div_nonneg (zpow_ten_pos _).le (by norm_num)
  · rw [rounded_of_pos positive]
    exact abs_nearestMultiple_sub_le _ _

/-- Rounding changes a number by no more than half of its first place beyond the digits kept. -/
theorem abs_rounded_sub_le_mul (digits : ℕ) (number : ℚ) :
    |rounded digits number - number| ≤ |number| * (10 ^ (1 - digits : ℤ) / 2) := by
  by_cases zero : number = 0
  · simp [zero]
  · have place : (10 : ℚ) ^ lastPlace digits number =
        10 ^ leadingPlace number * 10 ^ (1 - digits : ℤ) := by
      rw [← zpow_add₀ (by norm_num), lastPlace]
      congr 1
      omega
    calc |rounded digits number - number| ≤ 10 ^ lastPlace digits number / 2 :=
          abs_rounded_sub_le digits number
      _ = 10 ^ leadingPlace number * (10 ^ (1 - digits : ℤ) / 2) := by rw [place, mul_div_assoc]
      _ ≤ |number| * (10 ^ (1 - digits : ℤ) / 2) :=
          mul_le_mul_of_nonneg_right (zpow_leadingPlace_le zero)
            (div_nonneg (zpow_ten_pos _).le (by norm_num))

/-! ## Rounding keeps the order -/

theorem zpow_le_rounded (some : 0 < digits) (positive : 0 < number) :
    (10 : ℚ) ^ leadingPlace number ≤ rounded digits number := by
  have power := nearestMultiple_of_multiple (lastPlace_le some number) 1
  have lower := zpow_leadingPlace_le positive.ne'
  rw [abs_of_pos positive] at lower
  rw [Int.cast_one, one_mul] at power
  rw [rounded_of_pos positive, ← power]
  exact nearestMultiple_mono _ lower

theorem rounded_le_zpow (some : 0 < digits) (positive : 0 < number) :
    rounded digits number ≤ (10 : ℚ) ^ (leadingPlace number + 1) := by
  have power := nearestMultiple_of_multiple
    ((lastPlace_le some number).trans (Int.lt_succ _).le) 1
  have upper := abs_lt_zpow_leadingPlace positive.ne'
  rw [abs_of_pos positive] at upper
  rw [Int.cast_one, one_mul] at power
  rw [rounded_of_pos positive, ← power]
  exact nearestMultiple_mono _ upper.le

theorem zpow_le_abs_rounded (some : 0 < digits) {place : ℤ}
    (large : (10 : ℚ) ^ place ≤ |number|) : (10 : ℚ) ^ place ≤ |rounded digits number| := by
  have positive := (zpow_ten_pos place).trans_le large
  have nonzero := abs_pos.mp positive
  have magnitude : |rounded digits number| = rounded digits |number| := by
    have roundedPos := (zpow_ten_pos _).trans_le (zpow_le_rounded some positive)
    rw [rounded_eq_sign_mul, abs_mul, abs_of_pos roundedPos]
    rcases lt_or_gt_of_ne nonzero with negative | positive
    · rw [sign_neg negative]
      simp
    · rw [sign_pos positive]
      simp
  rw [magnitude]
  refine (zpow_ten_le_iff.mpr ?_).trans (zpow_le_rounded some positive)
  exact (zpow_le_abs_iff positive.ne').mp (by rwa [abs_abs])

theorem rounded_monotone (some : 0 < digits) : Monotone (rounded digits) := by
  apply monotone_of_odd_of_monotoneOn_nonneg (rounded_neg digits)
  intro first firstNonneg second secondNonneg le
  rcases (Set.mem_Ici.mp firstNonneg).eq_or_lt with rfl | firstPos
  · rcases (Set.mem_Ici.mp secondNonneg).eq_or_lt with rfl | secondPos
    · exact le_rfl
    · rw [rounded_zero]
      exact (zpow_ten_pos _).le.trans (zpow_le_rounded some secondPos)
  · have secondPos := firstPos.trans_le le
    have places : leadingPlace first ≤ leadingPlace second :=
      leadingPlace_mono firstPos.ne' (by rwa [abs_of_pos firstPos, abs_of_pos secondPos])
    rcases places.eq_or_lt with same | further
    · rw [rounded_of_pos firstPos, rounded_of_pos secondPos, lastPlace, lastPlace, same]
      exact nearestMultiple_mono _ le
    · -- a power of ten lies between the two roundings
      calc rounded digits first ≤ 10 ^ (leadingPlace first + 1) := rounded_le_zpow some firstPos
        _ ≤ 10 ^ leadingPlace second := zpow_ten_le_iff.mpr further
        _ ≤ rounded digits second := zpow_le_rounded some secondPos

/-! ## The quotient of two whole numbers -/

theorem roundHalfUp_eq_floor {numerator denominator : ℕ} (nonzero : denominator ≠ 0) :
    (roundHalfUp numerator denominator : ℤ) = ⌊(numerator / denominator : ℚ) + 1 / 2⌋ := by
  have denominatorNonzero : (denominator : ℚ) ≠ 0 := Nat.cast_ne_zero.mpr nonzero
  have half : (numerator / denominator : ℚ) + 1 / 2 =
      ((2 * numerator + denominator : ℕ) : ℚ) / ((2 * denominator : ℕ) : ℚ) := by
    push_cast
    field_simp
  rw [half, Rat.floor_natCast_div_natCast, roundHalfUp]
  rfl

theorem leadingOfQuotient_eq {numerator denominator : ℕ} (numeratorNonzero : numerator ≠ 0)
    (denominatorNonzero : denominator ≠ 0) :
    leadingOfQuotient numerator denominator = leadingPlace (numerator / denominator) := by
  have quotientNonneg : (0 : ℚ) ≤ numerator / denominator := by positivity
  have estimate : leadingPlace (numerator : ℚ) - leadingPlace (denominator : ℚ) =
      (digitCount numerator : ℤ) - digitCount denominator := by
    rw [leadingPlace_natCast numeratorNonzero, leadingPlace_natCast denominatorNonzero]
    omega
  obtain ⟨lower, upper⟩ := leadingPlace_div_bounds
    ((Nat.cast_ne_zero (R := ℚ)).mpr numeratorNonzero)
    (Nat.cast_ne_zero.mpr denominatorNonzero)
  rw [estimate] at lower upper
  rw [leadingOfQuotient]
  simp only [raise_le_raise_iff (show 0 < 10 by norm_num) denominatorNonzero, Nat.cast_ofNat]
  symm
  split
  · next reaches =>
      exact leadingPlace_eq (by rwa [abs_of_nonneg quotientNonneg]) upper
  · next below =>
      exact leadingPlace_eq lower (by rwa [abs_of_nonneg quotientNonneg, sub_add_cancel, ← not_le])

/-- Rounding a quotient of whole numbers is rounding the number that it is. -/
theorem roundSignificant_eq (digits : ℕ) {numerator denominator : ℕ}
    (numeratorNonzero : numerator ≠ 0) (denominatorNonzero : denominator ≠ 0) :
    ((roundSignificant digits numerator denominator).1 *
        10 ^ (roundSignificant digits numerator denominator).2 : ℚ) =
      rounded digits (numerator / denominator) := by
  have positive : (0 : ℚ) < numerator / denominator := by positivity
  have place : (roundSignificant digits numerator denominator).2 =
      lastPlace digits (numerator / denominator) := by
    rw [roundSignificant, leadingOfQuotient_eq numeratorNonzero denominatorNonzero, lastPlace]
  have raised : raise 10 denominator (lastPlace digits (numerator / denominator)) ≠ 0 :=
    (raise_pos (by norm_num) denominatorNonzero _).ne'
  have coefficient : ((roundSignificant digits numerator denominator).1 : ℤ) =
      ⌊(numerator / denominator : ℚ) / 10 ^ lastPlace digits (numerator / denominator) +
        1 / 2⌋ := by
    rw [roundSignificant, leadingOfQuotient_eq numeratorNonzero denominatorNonzero, ← lastPlace,
      roundHalfUp_eq_floor raised, raise_div_raise (show 0 < 10 by norm_num), Nat.cast_ofNat,
      zpow_neg, ← div_eq_mul_inv]
  rw [rounded_of_pos positive, nearestMultiple, place, ← coefficient, Int.cast_natCast]

theorem sign_quotient (numerator : ℤ) {denominator : ℤ} (nonzero : denominator ≠ 0) :
    (SignType.sign (numerator / denominator : ℚ) : ℚ) =
      ((numerator.sign * denominator.sign : ℤ) : ℚ) := by
  have denominatorCast : (denominator : ℚ) ≠ 0 := Int.cast_ne_zero.mpr nonzero
  have square : (numerator / denominator : ℚ) =
      ((numerator * denominator : ℤ) : ℚ) * ((denominator : ℚ) * denominator)⁻¹ := by
    push_cast
    field_simp
  have positive : 0 < ((denominator : ℚ) * denominator)⁻¹ :=
    inv_pos.mpr (mul_self_pos.mpr denominatorCast)
  rw [square, sign_mul_of_pos positive, sign_intCast, ← Int.sign_mul, Int.sign_eq_sign]
  simp

/-- A signed quotient by its coefficients and an exponent of ten, rounded. -/
theorem roundSignificant_signed (digits : ℕ) {numerator denominator : ℤ}
    (numeratorNonzero : numerator ≠ 0) (denominatorNonzero : denominator ≠ 0) (exponent : ℤ) :
    (((numerator.sign * denominator.sign *
        (roundSignificant digits numerator.natAbs denominator.natAbs).1 : ℤ) : ℚ) *
          10 ^ (exponent + (roundSignificant digits numerator.natAbs denominator.natAbs).2)) =
      rounded digits (numerator / denominator * 10 ^ exponent) := by
  have magnitude : |(numerator / denominator : ℚ)| = numerator.natAbs / denominator.natAbs := by
    rw [abs_div, Nat.cast_natAbs, Nat.cast_natAbs, Int.cast_abs, Int.cast_abs]
  rw [rounded_mul_zpow, rounded_eq_sign_mul, magnitude, sign_quotient numerator denominatorNonzero,
    ← roundSignificant_eq digits (Int.natAbs_ne_zero.mpr numeratorNonzero)
      (Int.natAbs_ne_zero.mpr denominatorNonzero), zpow_add₀ (by norm_num)]
  push_cast
  ring

end Eligibility
