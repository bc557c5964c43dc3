import Eligibility.Proofs.Double.Grid

/-!
# Days from years and back

The product of a double with the 365 days of a year is rounded, and so is the quotient of the product
by 365.  The quotient need not be the double that was multiplied, but its product is the same again.
Multiplication moves a double up by eight or nine binary places.  Up to eight places the quotient is
the double itself; at nine places it is within half a unit of it, which the product rounds away.
-/

set_option autoImplicit false

namespace Eligibility

section Years

variable {bits : ℕ} {unit : ℤ}

/-- The product of a power of two, which has the nine bits of 365. -/
theorem isGridPoint_product_of_lead (least : -1074 ≤ unit) :
    IsGridPoint (scaledByTwo (2 ^ 52) unit * 365) := by
  have same : scaledByTwo (2 ^ 52) unit * 365 = scaledByTwo (365 * 2 ^ 44) (unit + 8) := by
    rw [scaledByTwo, scaledByTwo, zpow_add₀ (by norm_num)]
    push_cast
    ring
  rw [same]
  exact isGridPoint_scaledByTwo (hasUnit_scaledByTwo_iff.mpr
    ⟨by omega, by norm_num, .inr (by norm_num)⟩)

theorem product_eq (bits : ℕ) (unit : ℤ) :
    scaledByTwo bits unit * 365 = bits * 365 * 2 ^ unit := by
  rw [scaledByTwo]
  ring

/-- The unit of a product is at most nine places above the unit of the factor. -/
theorem exists_places (positive : 0 < bits) (hasUnit : HasUnit (scaledByTwo bits unit) unit) :
    ∃ places product : ℕ, places ≤ 9 ∧
      HasUnit (scaledByTwo bits unit * 365) (unit + places) ∧
      |(bits * 365 : ℚ) - product * 2 ^ places| ≤ 2 ^ places / 2 ∧
      nearestDouble (scaledByTwo bits unit * 365) = product * 2 ^ places * 2 ^ unit := by
  have factorPositive : 0 < scaledByTwo bits unit := scaledByTwo_pos_iff.mpr positive
  obtain ⟨product, productUnit, productHas, nearest, rounded⟩ :=
    nearestDouble_spec (mul_pos factorPositive (by norm_num : (0 : ℚ) < 365))
  obtain ⟨places, rfl⟩ := Int.le.dest
    (hasUnit.mono productHas (le_mul_of_one_le_right factorPositive.le (by norm_num)))
  have unitPositive := zpow_two_pos unit
  refine ⟨places, product, ?_, productHas, ?_, ?_⟩
  · -- 365 is less than the ninth power of two
    by_contra! more
    have reaches := productHas.full.resolve_left (by have := hasUnit.least; omega)
    have below : scaledByTwo bits unit * 365 < 2 ^ (unit + 62) := by
      have shift : (2 : ℚ) ^ (unit + 62) = 2 ^ (unit + 53) * 512 := by
        rw [show unit + 62 = unit + 53 + 9 by ring, zpow_add₀ (by norm_num) (unit + 53)]
        norm_num
      rw [shift]
      linarith [hasUnit.below]
    exact (reaches.trans_lt below).not_ge (zpow_two_le_iff.mpr (by omega))
  · have close := nearest.abs_sub_le
    have power : (0 : ℚ) < 2 ^ places := by positivity
    have units : scaledByTwo bits unit * 365 / 2 ^ (unit + places) = bits * 365 / 2 ^ places := by
      rw [product_eq, zpow_add₀ (by norm_num), zpow_natCast, mul_comm _ (2 ^ unit),
        mul_div_mul_left _ _ unitPositive.ne']
    have scaled : (bits * 365 : ℚ) - product * 2 ^ places =
        (bits * 365 / 2 ^ places - product) * 2 ^ places := by
      rw [sub_mul, div_mul_cancel₀ _ power.ne']
    rw [units] at close
    rw [scaled, abs_mul, abs_of_pos power]
    linarith [mul_le_mul_of_nonneg_right close power.le]
  · rw [rounded, scaledByTwo, zpow_add₀ (by norm_num), zpow_natCast]
    ring

/-- A product that moved up by at most eight places is divided to the factor. -/
theorem nearestDouble_quotient {places product : ℕ} (positive : 0 < bits)
    (hasUnit : HasUnit (scaledByTwo bits unit) unit) (notLead : bits ≠ 2 ^ 52) (few : places ≤ 8)
    (close : |(bits * 365 : ℚ) - product * 2 ^ places| ≤ 2 ^ places / 2) :
    nearestDouble (product * 2 ^ places * 2 ^ unit / 365) = scaledByTwo bits unit := by
  obtain ⟨least, small, full⟩ := hasUnit_scaledByTwo_iff.mp hasUnit
  have atLeastOne : (1 : ℚ) ≤ bits := by exact_mod_cast positive
  have bitsLe : (bits : ℚ) + 1 ≤ 2 ^ 53 := by exact_mod_cast small
  have power : (2 : ℚ) ^ places ≤ 256 := by
    calc (2 : ℚ) ^ places ≤ 2 ^ 8 := pow_le_pow_right₀ (by norm_num) few
      _ = 256 := by norm_num
  obtain ⟨lower, upper⟩ := abs_le.mp close
  rw [mul_div_right_comm]
  refine nearestDouble_mul (by linarith) (hasUnit_mul_iff.mpr ⟨least, ?_, ?_⟩)
    (.inl (abs_lt.mpr ⟨by linarith, by linarith⟩))
  · push_cast
    linarith
  · refine full.imp_right fun large => ?_
    have more : (2 : ℚ) ^ 52 + 1 ≤ bits := by
      exact_mod_cast lt_of_le_of_ne large (Ne.symm notLead)
    push_cast
    linarith

/-- A product that moved up by nine places is found again. -/
theorem nearestDouble_product {product : ℕ} (hasUnit : HasUnit (scaledByTwo bits unit) unit)
    (productHas : HasUnit (scaledByTwo bits unit * 365) (unit + (9 : ℕ)))
    (close : |(bits * 365 : ℚ) - product * 2 ^ 9| ≤ 2 ^ 9 / 2) :
    nearestDouble (nearestDouble (product * 2 ^ 9 * 2 ^ unit / 365) * 365) =
      product * 2 ^ 9 * 2 ^ unit := by
  obtain ⟨least, small, -⟩ := hasUnit_scaledByTwo_iff.mp hasUnit
  have unitPositive := zpow_two_pos unit
  have bitsLe : (bits : ℚ) + 1 ≤ 2 ^ 53 := by exact_mod_cast small
  obtain ⟨lower, upper⟩ := abs_le.mp close
  -- the product has 53 bits from its unit on
  have units : scaledByTwo bits unit * 365 = bits * 365 / 2 ^ 9 * 2 ^ (unit + (9 : ℕ)) := by
    rw [product_eq, zpow_two_mul_pow]
    push_cast
    ring
  have reaches : (2 : ℚ) ^ 52 ≤ bits * 365 / 2 ^ 9 := by
    rw [units, hasUnit_mul_iff] at productHas
    exact_mod_cast productHas.2.2.resolve_left (by omega)
  have productGe : (2 : ℚ) ^ 52 ≤ product := by
    have less : ((2 ^ 52 : ℕ) : ℚ) < product + 1 := by
      push_cast
      linarith
    exact_mod_cast Nat.lt_succ_iff.mp (by exact_mod_cast less)
  -- the quotient rounds to a number of bits that is at least a 365th of `2 ^ 61`
  have quotient : (product * 2 ^ 9 * 2 ^ unit / 365 : ℚ) = product * 2 ^ 9 / 365 * 2 ^ unit := by
    ring
  have quotientHas : HasUnit (product * 2 ^ 9 / 365 * 2 ^ unit) unit :=
    hasUnit_mul_iff.mpr ⟨least, by push_cast; linarith, .inr (by push_cast; linarith)⟩
  have quotientPositive : (0 : ℚ) < product * 2 ^ 9 / 365 * 2 ^ unit :=
    mul_pos (by linarith) unitPositive
  obtain ⟨found, foundUnit, foundHas, nearest, rounded⟩ := nearestDouble_spec quotientPositive
  obtain rfl := foundHas.unique quotientHas
  rw [mul_zpow_two_div] at nearest
  obtain ⟨foundLower, foundUpper⟩ := abs_le.mp nearest.abs_sub_le
  have foundGe : (6317378107434778 : ℚ) ≤ found := by
    have less : ((6317378107434777 : ℕ) : ℚ) < found := by
      push_cast
      linarith
    exact_mod_cast Nat.succ_le_of_lt (by exact_mod_cast less)
  -- its product is again within half a unit
  have again : scaledByTwo found foundUnit * 365 =
      found * 365 / 2 ^ 9 * 2 ^ (foundUnit + (9 : ℕ)) := by
    rw [product_eq, zpow_two_mul_pow]
    push_cast
    ring
  have productUnits : (product * 2 ^ 9 * 2 ^ foundUnit : ℚ) =
      scaledByTwo product (foundUnit + (9 : ℕ)) := by
    rw [scaledByTwo, zpow_two_mul_pow]
    push_cast
    ring
  rw [quotient, rounded, again, productUnits]
  refine nearestDouble_mul (by linarith) (hasUnit_mul_iff.mpr ⟨by omega, ?_, .inr ?_⟩)
    (.inl (abs_lt.mpr ⟨by linarith, by linarith⟩))
  · push_cast
    linarith
  · push_cast
    linarith

end Years

/-- The product of a double with the days of a year comes back from the rounded quotient. -/
theorem product_of_quotient {number : ℚ} (isPoint : IsGridPoint number) :
    nearestDouble (nearestDouble (nearestDouble (number * 365) / 365) * 365) =
      nearestDouble (number * 365) := by
  wlog positive : 0 < number generalizing number
  · rcases (not_lt.mp positive).eq_or_lt with rfl | negative
    · simp [nearestDouble]
    · have opposite := this isPoint.neg (neg_pos.mpr negative)
      simpa only [neg_mul, nearestDouble_neg, neg_div, neg_inj] using opposite
  obtain ⟨bits, unit, rfl, hasUnit⟩ := isPoint.exists_bits positive
  by_cases lead : bits = 2 ^ 52
  · subst lead
    rw [isGridPoint_product_of_lead hasUnit.least, mul_div_cancel_right₀ _ (by norm_num), isPoint,
      isGridPoint_product_of_lead hasUnit.least]
  obtain ⟨places, product, atMost, productHas, close, rounded⟩ :=
    exists_places (scaledByTwo_pos_iff.mp positive) hasUnit
  rcases atMost.lt_or_eq with few | rfl
  · rw [rounded, nearestDouble_quotient (scaledByTwo_pos_iff.mp positive) hasUnit lead
      (Nat.le_of_lt_succ few) close, rounded]
  · rw [rounded]
    exact nearestDouble_product hasUnit productHas close

end Eligibility
