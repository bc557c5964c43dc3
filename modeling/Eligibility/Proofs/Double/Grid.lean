import Eligibility.Proofs.Double.Whole
import Mathlib.Algebra.Order.Round
import Mathlib.Tactic.Ring

/-!
# The grid of doubles

A positive number has a unit, the last of its 53 bits, and rounds to the multiple of the unit that
is nearest, a half to the even one.  The unit and the multiple are determined by inequalities, so a
rounded number is found by exhibiting them.
-/

set_option autoImplicit false

namespace Eligibility

/-! ## Nearest whole numbers -/

/-- The whole number is at most a half away, and if it is a half away then it is even. -/
def IsNearest (number : ℚ) (whole : ℕ) : Prop :=
  |number - whole| < 1 / 2 ∨ |number - whole| = 1 / 2 ∧ whole % 2 = 0

theorem IsNearest.abs_sub_le {number : ℚ} {whole : ℕ} (nearest : IsNearest number whole) :
    |number - whole| ≤ 1 / 2 :=
  nearest.elim le_of_lt fun half => half.1.le

theorem IsNearest.le {number : ℚ} {whole bound : ℕ} (nearest : IsNearest number whole)
    (le : number ≤ bound) : whole ≤ bound := by
  have close := abs_le.mp nearest.abs_sub_le
  have less : (whole : ℚ) < bound + 1 := by linarith [close.1]
  exact Nat.lt_succ_iff.mp (by exact_mod_cast less)

theorem IsNearest.ge {number : ℚ} {whole bound : ℕ} (nearest : IsNearest number whole)
    (le : bound ≤ number) : bound ≤ whole := by
  have close := abs_le.mp nearest.abs_sub_le
  have less : (bound : ℚ) < whole + 1 := by linarith [close.2]
  exact Nat.lt_succ_iff.mp (by exact_mod_cast less)

theorem isNearest_self (whole : ℕ) : IsNearest whole whole :=
  .inl (by simp)

theorem isNearest_of_even {number : ℚ} {whole : ℕ} (even : whole % 2 = 0)
    (close : |number - whole| ≤ 1 / 2) : IsNearest number whole :=
  close.lt_or_eq.imp_right fun half => ⟨half, even⟩

theorem IsNearest.unique {number : ℚ} {first second : ℕ} (firstNearest : IsNearest number first)
    (secondNearest : IsNearest number second) : first = second := by
  wlog less : first < second generalizing first second
  · rcases (not_lt.mp less).eq_or_lt with same | greater
    · exact same.symm
    · exact (this secondNearest firstNearest greater).symm
  have upper := abs_le.mp firstNearest.abs_sub_le
  have lower := abs_le.mp secondNearest.abs_sub_le
  have close : (second : ℚ) ≤ first + 1 := by linarith [upper.2, lower.1]
  have next : second = first + 1 := by
    have : second ≤ first + 1 := by exact_mod_cast close
    omega
  -- both are exactly a half away, and only one of two neighbours is even
  subst next
  push_cast at lower
  have firstHalf : |number - first| = 1 / 2 := by
    rw [abs_of_nonneg (by linarith [lower.1])]
    linarith [upper.2, lower.1]
  have secondHalf : |number - (first + 1 : ℕ)| = 1 / 2 := by
    push_cast
    rw [abs_of_nonpos (by linarith [upper.2])]
    linarith [upper.2, lower.1]
  have firstEven : first % 2 = 0 := firstNearest.elim (fun less => absurd firstHalf less.ne) And.right
  have secondEven : (first + 1) % 2 = 0 :=
    secondNearest.elim (fun less => absurd secondHalf less.ne) And.right
  omega

theorem isNearest_roundHalfEven (numerator : ℕ) {denominator : ℕ} (positive : 0 < denominator) :
    IsNearest (numerator / denominator) (roundHalfEven numerator denominator) := by
  have denominatorPos : (0 : ℚ) < denominator := Nat.cast_pos.mpr positive
  have split : (numerator / denominator : ℚ) = (numerator / denominator : ℕ) +
      (numerator % denominator : ℕ) / denominator := by
    rw [div_eq_iff denominatorPos.ne', add_mul, div_mul_cancel₀ _ denominatorPos.ne']
    exact_mod_cast (Nat.div_add_mod' numerator denominator).symm
  have atLeast : (0 : ℚ) ≤ (numerator % denominator : ℕ) / denominator := by positivity
  have less : ((numerator % denominator : ℕ) / denominator : ℚ) < 1 := by
    rw [div_lt_one denominatorPos]
    exact_mod_cast Nat.mod_lt numerator positive
  have halfIff : ((numerator % denominator : ℕ) / denominator : ℚ) < 1 / 2 ↔
      2 * (numerator % denominator) < denominator := by
    rw [div_lt_div_iff₀ denominatorPos two_pos, one_mul, mul_comm]
    exact_mod_cast Iff.rfl
  have moreIff : (1 / 2 : ℚ) < (numerator % denominator : ℕ) / denominator ↔
      denominator < 2 * (numerator % denominator) := by
    rw [div_lt_div_iff₀ two_pos denominatorPos, one_mul, mul_comm]
    exact_mod_cast Iff.rfl
  rw [split, roundHalfEven]
  generalize (numerator % denominator : ℕ) / (denominator : ℚ) = part at *
  generalize numerator / denominator = whole
  split_ifs with down up
  · left
    rw [add_sub_cancel_left, abs_of_nonneg atLeast]
    exact halfIff.mpr down
  · left
    have beyond := moreIff.mpr up
    push_cast
    rw [abs_of_nonpos (by linarith)]
    linarith
  · -- the part is a half, and the even neighbour is taken
    right
    obtain rfl : part = 1 / 2 := le_antisymm (not_lt.mp (mt moreIff.mp up))
      (not_lt.mp (mt halfIff.mp down))
    rcases Nat.mod_two_eq_zero_or_one whole with even | odd
    · rw [even, add_zero, add_sub_cancel_left]
      exact ⟨abs_of_pos (by norm_num), even⟩
    · rw [odd]
      push_cast
      refine ⟨?_, by omega⟩
      rw [abs_of_nonpos (by linarith)]
      ring

/-! ## Units -/

/-- The unit of a positive number, as an exponent of two: the number has at most 53 bits from the
unit on, and exactly 53 unless the unit is the least one. -/
structure HasUnit (number : ℚ) (unit : ℤ) : Prop where
  least : -1074 ≤ unit
  below : number < 2 ^ (unit + 53)
  full : unit = -1074 ∨ 2 ^ (unit + 52) ≤ number

theorem zpow_two_le_iff {first second : ℤ} : (2 : ℚ) ^ first ≤ 2 ^ second ↔ first ≤ second :=
  zpow_le_zpow_iff_right₀ (by norm_num)

theorem HasUnit.mono {first second : ℚ} {firstUnit secondUnit : ℤ}
    (firstHas : HasUnit first firstUnit) (secondHas : HasUnit second secondUnit)
    (le : first ≤ second) : firstUnit ≤ secondUnit := by
  by_contra! less
  have notLeast : firstUnit ≠ -1074 := by have := secondHas.least; omega
  have reaches := (firstHas.full.resolve_left notLeast).trans_lt (le.trans_lt secondHas.below)
  have shifted : (2 : ℚ) ^ (secondUnit + 53) ≤ 2 ^ (firstUnit + 52) :=
    zpow_two_le_iff.mpr (by omega)
  exact reaches.not_ge shifted

theorem HasUnit.unique {number : ℚ} {first second : ℤ} (firstHas : HasUnit number first)
    (secondHas : HasUnit number second) : first = second :=
  le_antisymm (firstHas.mono secondHas le_rfl) (secondHas.mono firstHas le_rfl)

theorem lt_zpow_binaryExponent (numerator : ℕ) {denominator : ℕ}
    (denominatorNonzero : denominator ≠ 0) :
    (numerator / denominator : ℚ) < 2 ^ (binaryExponent numerator denominator + 1) := by
  have positive : (0 : ℚ) < denominator := Nat.cast_pos.mpr (Nat.pos_of_ne_zero denominatorNonzero)
  rw [binaryExponent]
  simp only [raise_le_raise_iff two_pos denominatorNonzero, Nat.cast_ofNat]
  split
  · have upper : (numerator : ℚ) < 2 ^ ((numerator.log2 : ℤ) + 1) := by
      exact_mod_cast Nat.lt_log2_self
    have lower : (2 : ℚ) ^ (denominator.log2 : ℤ) ≤ denominator := by
      exact_mod_cast Nat.log2_self_le denominatorNonzero
    rw [div_lt_iff₀ positive]
    calc (numerator : ℚ) < 2 ^ ((numerator.log2 : ℤ) + 1) := upper
      _ = 2 ^ ((numerator.log2 : ℤ) - denominator.log2 + 1) * 2 ^ (denominator.log2 : ℤ) := by
          rw [← zpow_add₀ (by norm_num)]
          congr 1
          omega
      _ ≤ 2 ^ ((numerator.log2 : ℤ) - denominator.log2 + 1) * denominator :=
          mul_le_mul_of_nonneg_left lower (zpow_two_pos _).le
  · next misses =>
      rw [sub_add_cancel]
      exact not_le.mp misses

theorem hasUnit_unitExponent {numerator denominator : ℕ} (numeratorNonzero : numerator ≠ 0)
    (denominatorNonzero : denominator ≠ 0) :
    HasUnit (numerator / denominator) (unitExponent numerator denominator) := by
  have reaches := zpow_binaryExponent_le numeratorNonzero denominatorNonzero
  have below := lt_zpow_binaryExponent numerator denominatorNonzero
  rw [unitExponent]
  refine ⟨le_max_right _ _, below.trans_le (zpow_two_le_iff.mpr (by omega)), ?_⟩
  rcases le_total (binaryExponent numerator denominator - 52) (-1074) with fine | coarse
  · exact .inl (max_eq_right fine)
  · rw [max_eq_left coarse, sub_add_cancel]
    exact .inr reaches

/-! ## The nearest double -/

section Nearest
variable {number : ℚ}

theorem scaledByTwo_pos_iff {bits : ℕ} {unit : ℤ} : 0 < scaledByTwo bits unit ↔ 0 < bits := by
  rw [scaledByTwo, mul_pos_iff_of_pos_right (zpow_two_pos unit), Nat.cast_pos]

/-- A positive number rounds to the multiple of its unit that is nearest. -/
theorem nearestDouble_spec (positive : 0 < number) : ∃ bits unit, HasUnit number unit ∧
    IsNearest (number / 2 ^ unit) bits ∧ nearestDouble number = scaledByTwo bits unit := by
  have numPositive := Rat.num_pos.mpr positive
  have magnitude : (number.num.natAbs / number.den : ℚ) = number := by
    rw [← abs_eq_natAbs_div_den, abs_of_pos positive]
  have hasUnit := hasUnit_unitExponent (Int.natAbs_ne_zero.mpr numPositive.ne') number.den_nz
  rw [nearestDouble, if_neg numPositive.ne', if_neg numPositive.not_gt, nearestMagnitude]
  have nearest := isNearest_roundHalfEven
    (raise 2 number.num.natAbs (-unitExponent number.num.natAbs number.den))
    (raise_pos two_pos number.den_nz (unitExponent number.num.natAbs number.den))
  rw [raise_div_raise two_pos, magnitude, Nat.cast_ofNat, zpow_neg, ← div_eq_mul_inv] at nearest
  rw [magnitude] at hasUnit
  exact ⟨_, _, hasUnit, nearest, rfl⟩

theorem nearestDouble_eq {bits : ℕ} {unit : ℤ} (positive : 0 < number)
    (hasUnit : HasUnit number unit) (nearest : IsNearest (number / 2 ^ unit) bits) :
    nearestDouble number = scaledByTwo bits unit := by
  obtain ⟨otherBits, otherUnit, otherHas, otherNearest, rounded⟩ := nearestDouble_spec positive
  obtain rfl := hasUnit.unique otherHas
  obtain rfl := nearest.unique otherNearest
  exact rounded

theorem mul_zpow_two_div (units : ℚ) (unit : ℤ) : units * 2 ^ unit / 2 ^ unit = units :=
  mul_div_cancel_right₀ _ (zpow_two_pos unit).ne'

/-- A number of units rounds to the nearest whole number of them. -/
theorem nearestDouble_mul {units : ℚ} {bits : ℕ} {unit : ℤ} (positive : 0 < units)
    (hasUnit : HasUnit (units * 2 ^ unit) unit) (nearest : IsNearest units bits) :
    nearestDouble (units * 2 ^ unit) = scaledByTwo bits unit :=
  nearestDouble_eq (mul_pos positive (zpow_two_pos unit)) hasUnit (by rwa [mul_zpow_two_div])

end Nearest

/-! ## Points of the grid -/

/-- The number is a double, were there no largest one. -/
def IsGridPoint (number : ℚ) : Prop :=
  nearestDouble number = number

theorem IsGridPoint.neg {number : ℚ} (isPoint : IsGridPoint number) : IsGridPoint (-number) := by
  rw [IsGridPoint, nearestDouble_neg, isPoint]

section Points
variable {bits : ℕ} {unit : ℤ}

theorem zpow_two_mul_pow (unit : ℤ) (places : ℕ) :
    (2 : ℚ) ^ (unit + places) = (2 ^ places : ℕ) * 2 ^ unit := by
  rw [zpow_add₀ (by norm_num), zpow_natCast, mul_comm]
  push_cast
  rfl

/-- A unit tells how many units the number has. -/
theorem hasUnit_mul_iff {units : ℚ} : HasUnit (units * 2 ^ unit) unit ↔
    -1074 ≤ unit ∧ units < (2 ^ 53 : ℕ) ∧ (unit = -1074 ∨ (2 ^ 52 : ℕ) ≤ units) := by
  have below : units * 2 ^ unit < 2 ^ (unit + (53 : ℕ)) ↔ units < (2 ^ 53 : ℕ) := by
    rw [zpow_two_mul_pow, mul_lt_mul_iff_left₀ (zpow_two_pos unit)]
  have full : 2 ^ (unit + (52 : ℕ)) ≤ units * 2 ^ unit ↔ (2 ^ 52 : ℕ) ≤ units := by
    rw [zpow_two_mul_pow, mul_le_mul_iff_left₀ (zpow_two_pos unit)]
  constructor
  · rintro ⟨least, small, large⟩
    exact ⟨least, below.mp small, large.imp_right full.mp⟩
  · rintro ⟨least, small, large⟩
    exact ⟨least, below.mpr small, large.imp_right full.mpr⟩

theorem hasUnit_scaledByTwo_iff : HasUnit (scaledByTwo bits unit) unit ↔
    -1074 ≤ unit ∧ bits < 2 ^ 53 ∧ (unit = -1074 ∨ 2 ^ 52 ≤ bits) := by
  rw [scaledByTwo, hasUnit_mul_iff, Nat.cast_lt, Nat.cast_le]

theorem isGridPoint_scaledByTwo (hasUnit : HasUnit (scaledByTwo bits unit) unit) :
    IsGridPoint (scaledByTwo bits unit) := by
  rcases Nat.eq_zero_or_pos bits with rfl | positive
  · simp [IsGridPoint, scaledByTwo, nearestDouble]
  · exact nearestDouble_mul (Nat.cast_pos.mpr positive) hasUnit (isNearest_self bits)

/-- A positive point of the grid has at most 53 bits. -/
theorem IsGridPoint.exists_bits {number : ℚ} (isPoint : IsGridPoint number)
    (positive : 0 < number) :
    ∃ bits unit, number = scaledByTwo bits unit ∧ HasUnit (scaledByTwo bits unit) unit := by
  obtain ⟨bits, unit, hasUnit, -, rounded⟩ := nearestDouble_spec positive
  rw [isPoint.symm.trans rounded] at hasUnit
  exact ⟨bits, unit, isPoint.symm.trans rounded, hasUnit⟩

/-- A rounded number is a point of the grid. -/
theorem isGridPoint_nearestDouble (number : ℚ) : IsGridPoint (nearestDouble number) := by
  wlog positive : 0 < number generalizing number
  · rcases (not_lt.mp positive).eq_or_lt with rfl | negative
    · simp [IsGridPoint, nearestDouble]
    · have opposite := (this (-number) (neg_pos.mpr negative)).neg
      rwa [nearestDouble_neg, neg_neg] at opposite
  obtain ⟨bits, unit, hasUnit, nearest, rounded⟩ := nearestDouble_spec positive
  have unitPositive := zpow_two_pos unit
  have bitsLe : bits ≤ 2 ^ 53 := nearest.le (by
    rw [div_le_iff₀ unitPositive, ← zpow_two_mul_pow]
    exact hasUnit.below.le)
  have full : unit = -1074 ∨ 2 ^ 52 ≤ bits := hasUnit.full.imp_right fun reaches => nearest.ge (by
    rw [le_div_iff₀ unitPositive, ← zpow_two_mul_pow]
    exact reaches)
  rw [rounded]
  rcases bitsLe.lt_or_eq with less | rfl
  · exact isGridPoint_scaledByTwo (hasUnit_scaledByTwo_iff.mpr ⟨hasUnit.least, less, full⟩)
  · -- a carry into a new first bit is a full number of the next unit
    have carried : scaledByTwo (2 ^ 53) unit = scaledByTwo (2 ^ 52) (unit + 1) := by
      rw [scaledByTwo, scaledByTwo, zpow_add_one₀ (by norm_num)]
      push_cast
      ring
    rw [carried]
    have least := hasUnit.least
    exact isGridPoint_scaledByTwo (hasUnit_scaledByTwo_iff.mpr
      ⟨by omega, by norm_num, .inr le_rfl⟩)

/-- A rounded number is at most half or twice as large, unless it vanishes. -/
theorem nearestDouble_close {number : ℚ} (positive : 0 < number)
    (stays : 0 < nearestDouble number) :
    nearestDouble number / 2 ≤ number ∧ number ≤ 2 * nearestDouble number := by
  obtain ⟨bits, unit, -, nearest, rounded⟩ := nearestDouble_spec positive
  rw [rounded, scaledByTwo_pos_iff] at stays
  have someBit : (1 : ℚ) ≤ bits := by exact_mod_cast stays
  have close := abs_le.mp nearest.abs_sub_le
  have unitPositive := zpow_two_pos unit
  rw [rounded, scaledByTwo, mul_div_right_comm, ← mul_assoc]
  exact ⟨(le_div_iff₀ unitPositive).mp (by linarith [close.1]),
    (div_le_iff₀ unitPositive).mp (by linarith [close.2])⟩

theorem zpow_two_le_gridPoint {number : ℚ} (isPoint : IsGridPoint number) (positive : 0 < number) :
    2 ^ (-1074 : ℤ) ≤ number := by
  obtain ⟨bits, unit, rfl, hasUnit⟩ := isPoint.exists_bits positive
  have someBit : (1 : ℚ) ≤ bits := by exact_mod_cast scaledByTwo_pos_iff.mp positive
  rw [scaledByTwo]
  exact (zpow_two_le_iff.mpr hasUnit.least).trans
    (le_mul_of_one_le_left (zpow_two_pos unit).le someBit)

/-- Rounding takes no positive number above a point of the grid. -/
theorem nearestDouble_le_gridPoint {number point : ℚ} (positive : 0 < number)
    (isPoint : IsGridPoint point) (le : number ≤ point) : nearestDouble number ≤ point := by
  obtain ⟨pointBits, pointUnit, rfl, pointHas⟩ := isPoint.exists_bits (positive.trans_le le)
  obtain ⟨bits, unit, hasUnit, nearest, rounded⟩ := nearestDouble_spec positive
  -- the point is a multiple of the finer unit as well
  obtain ⟨places, coarser⟩ := Int.le.dest (hasUnit.mono pointHas le)
  have refined : scaledByTwo pointBits pointUnit = scaledByTwo (pointBits * 2 ^ places) unit := by
    rw [scaledByTwo, ← coarser, zpow_two_mul_pow, scaledByTwo, ← mul_assoc, Nat.cast_mul]
  rw [refined] at le ⊢
  rw [rounded, scaledByTwo_le_iff]
  refine nearest.le ?_
  rwa [div_le_iff₀ (zpow_two_pos unit)]

theorem gridPoint_le_nearestDouble {number point : ℚ} (positive : 0 < point)
    (isPoint : IsGridPoint point) (le : point ≤ number) : point ≤ nearestDouble number := by
  obtain ⟨pointBits, pointUnit, rfl, pointHas⟩ := isPoint.exists_bits positive
  obtain ⟨bits, unit, hasUnit, nearest, rounded⟩ := nearestDouble_spec (positive.trans_le le)
  have unitPositive := zpow_two_pos unit
  rw [rounded]
  rcases (pointHas.mono hasUnit le).lt_or_eq with coarser | rfl
  · -- with a coarser unit the number has a full 53 bits
    have reaches := hasUnit.full.resolve_left (by have := pointHas.least; omega)
    have full : 2 ^ 52 ≤ bits := nearest.ge (by
      rw [le_div_iff₀ unitPositive, ← zpow_two_mul_pow]
      exact reaches)
    calc scaledByTwo pointBits pointUnit ≤ 2 ^ (unit + (52 : ℕ)) :=
          pointHas.below.le.trans (zpow_two_le_iff.mpr (by omega))
      _ ≤ scaledByTwo bits unit := by
          rw [zpow_two_mul_pow]
          exact scaledByTwo_le_iff.mpr full
  · refine scaledByTwo_le_iff.mpr (nearest.ge ?_)
    rwa [le_div_iff₀ unitPositive]

end Points

end Eligibility
