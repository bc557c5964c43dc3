import Eligibility.Scaling
import Mathlib.Algebra.Order.Field.Power
import Mathlib.Data.Rat.Cast.Order
import Mathlib.Tactic.Positivity

/-!
# Scaling as multiplication

Raising one side of a quotient by a power, or the other side for a negative exponent, multiplies the
quotient by the power.
-/

set_option autoImplicit false

namespace Eligibility

@[simp]
theorem cast_raise (base number : ℕ) (exponent : ℤ) :
    (raise base number exponent : ℚ) = number * (base : ℚ) ^ exponent.toNat := by
  rw [raise, Nat.cast_mul, Nat.pow_eq, Nat.cast_pow]

section Quotients
variable {base denominator : ℕ}

/-- Raising one side or the other is scaling the quotient. -/
theorem raise_div_raise (basePositive : 0 < base) (numerator denominator : ℕ) (exponent : ℤ) :
    (raise base numerator (-exponent) / raise base denominator exponent : ℚ) =
      numerator / denominator * (base : ℚ) ^ (-exponent) := by
  have nonzero : (base : ℚ) ≠ 0 := Nat.cast_ne_zero.mpr basePositive.ne'
  have sides : (base : ℚ) ^ (-exponent) =
      (base : ℚ) ^ (-exponent).toNat / (base : ℚ) ^ exponent.toNat := by
    rw [← zpow_natCast, ← zpow_natCast, ← zpow_sub₀ nonzero]
    congr 1
    omega
  rw [cast_raise, cast_raise, mul_div_mul_comm, sides]

theorem raise_pos (basePositive : 0 < base) (nonzero : denominator ≠ 0) (exponent : ℤ) :
    0 < raise base denominator exponent :=
  Nat.mul_pos (Nat.pos_of_ne_zero nonzero) (Nat.pow_pos basePositive)

theorem raise_le_raise_iff (basePositive : 0 < base) (nonzero : denominator ≠ 0)
    (numerator : ℕ) (place : ℤ) :
    raise base denominator place ≤ raise base numerator (-place) ↔
      (base : ℚ) ^ place ≤ numerator / denominator := by
  have positive : (0 : ℚ) < raise base denominator place :=
    Nat.cast_pos.mpr (raise_pos basePositive nonzero place)
  have power : (0 : ℚ) < (base : ℚ) ^ place := zpow_pos (Nat.cast_pos.mpr basePositive) place
  rw [← Nat.cast_le (α := ℚ), ← one_le_div positive, raise_div_raise basePositive, zpow_neg,
    ← div_eq_mul_inv, one_le_div power]

end Quotients

end Eligibility
