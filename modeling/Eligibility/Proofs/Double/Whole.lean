import Eligibility.Double.Basic
import Eligibility.Proofs.Scaling
import Mathlib.Tactic.Linarith
import Mathlib.Tactic.NormNum

/-!
# Rounding to doubles and whole numbers

Every whole number below `2 ^ 53` is a double, so rounding does not take a number across it.  A
comparison of a rounded number with such a whole number is therefore one of the number itself.
-/

set_option autoImplicit false

namespace Eligibility

/-! ## Rounding to a whole number -/

section Halves
variable {numerator denominator bound : ℕ}

theorem roundHalfEven_le (positive : 0 < denominator) (le : numerator ≤ bound * denominator) :
    roundHalfEven numerator denominator ≤ bound := by
  have division := Nat.div_add_mod' numerator denominator
  have whole : numerator / denominator ≤ bound := Nat.div_le_of_le_mul (by rwa [mul_comm])
  rw [roundHalfEven]
  rcases whole.lt_or_eq with less | same
  · split_ifs <;> omega
  · -- a quotient that reaches the bound leaves no rest
    rw [same] at division
    have rest : numerator % denominator = 0 := by omega
    rw [if_pos (by omega)]
    exact whole

theorem le_roundHalfEven (positive : 0 < denominator) (le : bound * denominator ≤ numerator) :
    bound ≤ roundHalfEven numerator denominator := by
  have whole : bound ≤ numerator / denominator := (Nat.le_div_iff_mul_le positive).mpr le
  rw [roundHalfEven]
  split_ifs <;> omega

end Halves

/-! ## The grid of doubles -/

section Grid
variable {numerator denominator : ℕ}

theorem zpow_two_pos (exponent : ℤ) : (0 : ℚ) < 2 ^ exponent :=
  zpow_pos (by norm_num) exponent

theorem scaledByTwo_le_iff {first second : ℕ} {unit : ℤ} :
    scaledByTwo first unit ≤ scaledByTwo second unit ↔ first ≤ second := by
  rw [scaledByTwo, scaledByTwo, mul_le_mul_iff_left₀ (zpow_two_pos unit), Nat.cast_le]

theorem zpow_binaryExponent_le (numeratorNonzero : numerator ≠ 0)
    (denominatorNonzero : denominator ≠ 0) :
    (2 : ℚ) ^ binaryExponent numerator denominator ≤ numerator / denominator := by
  have positive : (0 : ℚ) < denominator := Nat.cast_pos.mpr (Nat.pos_of_ne_zero denominatorNonzero)
  rw [binaryExponent]
  simp only [raise_le_raise_iff two_pos denominatorNonzero, Nat.cast_ofNat]
  split
  · next reaches => exact reaches
  · have lower : (2 : ℚ) ^ (numerator.log2 : ℤ) ≤ numerator := by
      exact_mod_cast Nat.log2_self_le numeratorNonzero
    have upper : (denominator : ℚ) ≤ 2 ^ ((denominator.log2 : ℤ) + 1) := by
      exact_mod_cast Nat.lt_log2_self.le
    rw [le_div_iff₀ positive]
    calc (2 : ℚ) ^ ((numerator.log2 : ℤ) - denominator.log2 - 1) * denominator
        ≤ 2 ^ ((numerator.log2 : ℤ) - denominator.log2 - 1) * 2 ^ ((denominator.log2 : ℤ) + 1) :=
          mul_le_mul_of_nonneg_left upper (zpow_two_pos _).le
      _ = 2 ^ (numerator.log2 : ℤ) := by
          rw [← zpow_add₀ (by norm_num)]
          congr 1
          omega
      _ ≤ numerator := lower

theorem raised_le_iff (denominatorNonzero : denominator ≠ 0) (bits : ℕ) (unit : ℤ) :
    raise 2 numerator (-unit) ≤ bits * raise 2 denominator unit ↔
      (numerator / denominator : ℚ) ≤ scaledByTwo bits unit := by
  have positive : (0 : ℚ) < raise 2 denominator unit :=
    Nat.cast_pos.mpr (raise_pos two_pos denominatorNonzero unit)
  rw [← Nat.cast_le (α := ℚ), Nat.cast_mul, ← div_le_iff₀ positive, raise_div_raise two_pos,
    Nat.cast_ofNat, zpow_neg, ← div_eq_mul_inv, div_le_iff₀ (zpow_two_pos unit), scaledByTwo]

theorem le_raised_iff (denominatorNonzero : denominator ≠ 0) (bits : ℕ) (unit : ℤ) :
    bits * raise 2 denominator unit ≤ raise 2 numerator (-unit) ↔
      scaledByTwo bits unit ≤ (numerator / denominator : ℚ) := by
  have positive : (0 : ℚ) < raise 2 denominator unit :=
    Nat.cast_pos.mpr (raise_pos two_pos denominatorNonzero unit)
  rw [← Nat.cast_le (α := ℚ), Nat.cast_mul, ← le_div_iff₀ positive, raise_div_raise two_pos,
    Nat.cast_ofNat, zpow_neg, ← div_eq_mul_inv, le_div_iff₀ (zpow_two_pos unit), scaledByTwo]

/-- Rounding takes no magnitude across a point of its grid. -/
theorem nearestMagnitude_le (denominatorNonzero : denominator ≠ 0) {bits : ℕ}
    (le : (numerator / denominator : ℚ) ≤ scaledByTwo bits (unitExponent numerator denominator)) :
    nearestMagnitude numerator denominator ≤
      scaledByTwo bits (unitExponent numerator denominator) :=
  scaledByTwo_le_iff.mpr (roundHalfEven_le (raise_pos two_pos denominatorNonzero _)
    ((raised_le_iff denominatorNonzero bits _).mpr le))

theorem le_nearestMagnitude (denominatorNonzero : denominator ≠ 0) {bits : ℕ}
    (le : scaledByTwo bits (unitExponent numerator denominator) ≤ (numerator / denominator : ℚ)) :
    scaledByTwo bits (unitExponent numerator denominator) ≤
      nearestMagnitude numerator denominator :=
  scaledByTwo_le_iff.mpr (le_roundHalfEven (raise_pos two_pos denominatorNonzero _)
    ((le_raised_iff denominatorNonzero bits _).mpr le))

/-- A whole number is a point of every grid that is no coarser than one. -/
theorem whole_eq_scaledByTwo (number : ℕ) {unit : ℤ} (fine : unit ≤ 0) :
    (number : ℚ) = scaledByTwo (number * 2 ^ (-unit).toNat) unit := by
  have exponent : ((-unit).toNat : ℤ) = -unit := Int.toNat_of_nonneg (Int.neg_nonneg.mpr fine)
  rw [scaledByTwo, Nat.cast_mul, Nat.cast_pow, Nat.cast_ofNat, mul_assoc, ← zpow_natCast, exponent,
    ← zpow_add₀ (by norm_num), neg_add_cancel, zpow_zero, mul_one]

/-- A grid coarser than one belongs to magnitudes from `2 ^ 53` on. -/
theorem zpow_le_of_coarse (numeratorNonzero : numerator ≠ 0) (denominatorNonzero : denominator ≠ 0)
    (coarse : 0 < unitExponent numerator denominator) :
    scaledByTwo (2 ^ 52) (unitExponent numerator denominator) ≤ (numerator / denominator : ℚ) := by
  have exponent : unitExponent numerator denominator = binaryExponent numerator denominator - 52 := by
    rw [unitExponent] at coarse ⊢
    omega
  have reaches := zpow_binaryExponent_le numeratorNonzero denominatorNonzero
  rw [scaledByTwo, exponent, Nat.cast_pow, Nat.cast_ofNat, ← zpow_natCast,
    ← zpow_add₀ (by norm_num)]
  convert reaches using 2
  omega

theorem whole_lt_of_coarse {number : ℕ} (small : number < 2 ^ 53) {unit : ℤ} (coarse : 0 < unit) :
    (number : ℚ) < scaledByTwo (2 ^ 52) unit := by
  have two : (2 : ℚ) ≤ 2 ^ unit := by
    simpa using zpow_le_zpow_right₀ (show (1 : ℚ) ≤ 2 by norm_num) (show 1 ≤ unit by omega)
  have cast : (number : ℚ) < 2 ^ 53 := by exact_mod_cast small
  rw [scaledByTwo]
  push_cast
  linarith

theorem nearestMagnitude_le_whole (numeratorNonzero : numerator ≠ 0)
    (denominatorNonzero : denominator ≠ 0) {bound : ℕ} (small : bound < 2 ^ 53)
    (le : (numerator / denominator : ℚ) ≤ bound) :
    nearestMagnitude numerator denominator ≤ bound := by
  rcases le_or_gt (unitExponent numerator denominator) 0 with fine | coarse
  · rw [whole_eq_scaledByTwo bound fine] at le ⊢
    exact nearestMagnitude_le denominatorNonzero le
  · have large := zpow_le_of_coarse numeratorNonzero denominatorNonzero coarse
    exact absurd (large.trans le) (whole_lt_of_coarse small coarse).not_ge

theorem whole_le_nearestMagnitude (numeratorNonzero : numerator ≠ 0)
    (denominatorNonzero : denominator ≠ 0) {bound : ℕ} (small : bound < 2 ^ 53)
    (le : (bound : ℚ) ≤ numerator / denominator) :
    (bound : ℚ) ≤ nearestMagnitude numerator denominator := by
  rcases le_or_gt (unitExponent numerator denominator) 0 with fine | coarse
  · rw [whole_eq_scaledByTwo bound fine] at le ⊢
    exact le_nearestMagnitude denominatorNonzero le
  · have large := zpow_le_of_coarse numeratorNonzero denominatorNonzero coarse
    exact (whole_lt_of_coarse small coarse).le.trans (le_nearestMagnitude denominatorNonzero large)

end Grid

/-! ## Rounding to a double -/

section Nearest
variable {number : ℚ} {bound : ℤ}

theorem nearestDouble_neg (number : ℚ) : nearestDouble (-number) = -nearestDouble number := by
  rw [nearestDouble, nearestDouble, Rat.num_neg_eq_neg_num, Rat.den_neg_eq_den, Int.natAbs_neg]
  rcases lt_trichotomy number.num 0 with negative | zero | positive
  · rw [if_neg (by omega), if_neg (by omega), if_neg (by omega), if_pos negative, neg_neg]
  · rw [if_pos (by omega), if_pos zero, neg_zero]
  · rw [if_neg (by omega), if_pos (by omega), if_neg (by omega), if_neg (by omega)]

theorem abs_eq_natAbs_div_den (number : ℚ) : |number| = number.num.natAbs / number.den := by
  rw [Nat.cast_natAbs, Int.cast_abs, ← Nat.abs_cast number.den, ← abs_div, Rat.num_div_den]

/-- Rounding takes no number above a whole number that it does not exceed. -/
theorem nearestDouble_le (small : |bound| < 2 ^ 53) (le : number ≤ bound) :
    nearestDouble number ≤ bound := by
  have magnitude := abs_eq_natAbs_div_den number
  obtain ⟨-, boundSmall⟩ := abs_lt.mp small
  rw [nearestDouble]
  rcases lt_trichotomy number.num 0 with negative | zero | positive
  · -- the magnitude is at least the opposite of the bound, or at least zero
    have below : number < 0 := Rat.num_neg.mp negative
    have opposite : (((-bound).toNat : ℤ) : ℚ) = max (-(bound : ℚ)) 0 := by
      rw [Int.ofNat_toNat, Int.cast_max, Int.cast_neg, Int.cast_zero]
    have whole : ((-bound).toNat : ℚ) ≤ number.num.natAbs / number.den := by
      rw [← magnitude, abs_of_neg below, ← Int.cast_natCast, opposite]
      exact max_le (neg_le_neg le) (neg_nonneg.mpr below.le)
    have kept := whole_le_nearestMagnitude (by omega) number.den_nz
      (by have := neg_abs_le bound; omega) whole
    rw [← Int.cast_natCast, opposite] at kept
    rw [if_neg negative.ne, if_pos negative]
    exact neg_le.mpr ((le_max_left _ _).trans kept)
  · rw [if_pos zero]
    rwa [Rat.num_eq_zero.mp zero] at le
  · have above : 0 < number := Rat.num_pos.mp positive
    have boundPositive : 0 < bound := Int.cast_pos.mp (above.trans_le le)
    obtain ⟨bound, rfl⟩ := Int.eq_ofNat_of_zero_le boundPositive.le
    rw [if_neg positive.ne', if_neg positive.not_gt, Int.cast_natCast]
    refine nearestMagnitude_le_whole (by omega) number.den_nz (by omega) ?_
    rwa [← magnitude, abs_of_pos above]

theorem le_nearestDouble (small : |bound| < 2 ^ 53) (le : (bound : ℚ) ≤ number) :
    (bound : ℚ) ≤ nearestDouble number := by
  have opposite : nearestDouble (-number) ≤ (-bound : ℤ) :=
    nearestDouble_le (by rwa [abs_neg]) (by rw [Int.cast_neg]; exact neg_le_neg le)
  rw [nearestDouble_neg, Int.cast_neg] at opposite
  exact neg_le_neg_iff.mp opposite

/-- A whole number is below another, if that one is small, exactly when it is so once rounded. -/
theorem nearestDouble_lt_iff (small : |bound| + 1 < 2 ^ 53) (whole : ℤ) :
    nearestDouble whole < bound ↔ whole < bound := by
  constructor
  · intro less
    by_contra! le
    exact less.not_ge (le_nearestDouble (by omega) (Int.cast_le.mpr le))
  · intro less
    have lower : |bound - 1| < 2 ^ 53 := (abs_sub bound 1).trans_lt small
    have kept := nearestDouble_le lower (Int.cast_le.mpr (Int.le_sub_one_of_lt less))
    exact kept.trans_lt (Int.cast_lt.mpr (sub_one_lt bound))

theorem lt_nearestDouble_iff (small : |bound| + 1 < 2 ^ 53) (whole : ℤ) :
    (bound : ℚ) < nearestDouble whole ↔ bound < whole := by
  have opposite : nearestDouble (-whole : ℤ) < (-bound : ℤ) ↔ -whole < -bound :=
    nearestDouble_lt_iff (by rwa [abs_neg]) (-whole)
  rwa [Int.cast_neg, Int.cast_neg, nearestDouble_neg, neg_lt_neg_iff, neg_lt_neg_iff] at opposite

end Nearest

/-! ## Comparisons -/

namespace Double

variable {bound : ℤ}

theorem overflow_eq : overflow = 2 ^ (1024 : ℤ) := by
  rw [overflow, scaledByTwo, Nat.cast_one, one_mul]

theorem lt_overflow (small : |bound| < 2 ^ 53) : |(bound : ℚ)| < overflow := by
  have cast : |(bound : ℚ)| < 2 ^ 53 := by exact_mod_cast small
  refine cast.trans ?_
  rw [overflow_eq, ← zpow_natCast]
  exact zpow_lt_zpow_right₀ (by norm_num) (by norm_num)

theorem isBelow_ofRat (small : |bound| < 2 ^ 53) (number : ℚ) :
    (ofRat number).isBelow bound = decide (nearestDouble number < bound) := by
  obtain ⟨lower, upper⟩ := abs_lt.mp (lt_overflow small)
  rw [ofRat]
  split_ifs with above below
  · exact (decide_eq_false (upper.trans_le above).not_gt).symm
  · exact (decide_eq_true (below.trans_lt lower)).symm
  · rfl

theorem isAbove_ofRat (small : |bound| < 2 ^ 53) (number : ℚ) :
    (ofRat number).isAbove bound = decide ((bound : ℚ) < nearestDouble number) := by
  obtain ⟨lower, upper⟩ := abs_lt.mp (lt_overflow small)
  rw [ofRat]
  split_ifs with above below
  · exact (decide_eq_true (upper.trans_le above)).symm
  · exact (decide_eq_false (below.trans_lt lower).not_gt).symm
  · rfl

end Double

end Eligibility
