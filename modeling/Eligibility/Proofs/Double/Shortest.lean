import Eligibility.Double.Shortest
import Eligibility.Proofs.Decimal.Reading
import Eligibility.Proofs.Double.Grid
import Mathlib.Data.Nat.Prime.Basic
import Mathlib.Data.Rat.Lemmas

/-!
# Doubles read back

The text of a double is the text of a decimal that lies in its rounding interval, so it rounds to
the double when it is read.
-/

set_option autoImplicit false

namespace Eligibility

namespace RoundingInterval

section
variable {bits : ℕ} {unit : ℤ}

def reachBelow (bits : ℕ) (unit : ℤ) : ℚ :=
  if bits = 2 ^ 52 ∧ -1074 < unit then 1 / 4 else 1 / 2

theorem around_scaledByTwo (positive : 0 < bits) (hasUnit : HasUnit (scaledByTwo bits unit) unit) :
    around (scaledByTwo bits unit) =
      ⟨(bits - reachBelow bits unit) * 2 ^ unit, (bits + 1 / 2) * 2 ^ unit,
        decide (bits % 2 = 0)⟩ := by
  have valuePositive : 0 < scaledByTwo bits unit := scaledByTwo_pos_iff.mpr positive
  have magnitude : ((scaledByTwo bits unit).num.natAbs / (scaledByTwo bits unit).den : ℚ) =
      scaledByTwo bits unit := by
    rw [← abs_eq_natAbs_div_den, abs_of_pos valuePositive]
  have numPositive := Rat.num_pos.mpr valuePositive
  have sameUnit : unitExponent (scaledByTwo bits unit).num.natAbs (scaledByTwo bits unit).den =
      unit := by
    have found := hasUnit_unitExponent (Int.natAbs_ne_zero.mpr numPositive.ne')
      (scaledByTwo bits unit).den_nz
    rw [magnitude] at found
    exact found.unique hasUnit
  have gap : scaledByTwo 1 unit = 2 ^ unit := by
    rw [scaledByTwo, Nat.cast_one, one_mul]
  have quotient : (scaledByTwo bits unit / 2 ^ unit).floor = bits := by
    rw [scaledByTwo, mul_zpow_two_div]
    exact Rat.floor_intCast bits
  have evenIff : ((bits : ℤ) % 2 = 0) = (bits % 2 = 0) := by
    rw [eq_iff_iff]
    omega
  have leadIff : ((bits : ℤ) = leastFullBits) = (bits = 2 ^ 52) := by
    rw [eq_iff_iff, leastFullBits]
    omega
  simp only [around, sameUnit, gap, quotient, reachBelow, leadIff, evenIff]
  rw [scaledByTwo]
  congr 1
  · split_ifs <;> ring
  · ring

/-- The numbers of the interval in units. -/
theorem contains_around_iff {units : ℚ} (positive : 0 < bits)
    (hasUnit : HasUnit (scaledByTwo bits unit) unit) :
    (around (scaledByTwo bits unit)).contains (units * 2 ^ unit) = true ↔
      (bits - reachBelow bits unit < units ∧ units < bits + 1 / 2) ∨
        bits % 2 = 0 ∧ (units = bits - reachBelow bits unit ∨ units = bits + 1 / 2) := by
  have unitPositive := zpow_two_pos unit
  simp only [around_scaledByTwo positive hasUnit, contains, Bool.or_eq_true, Bool.and_eq_true,
    decide_eq_true_eq, mul_lt_mul_iff_left₀ unitPositive, mul_left_inj' unitPositive.ne']

/-- The numbers of the interval round to the double. -/
theorem nearestDouble_of_contains {number : ℚ} (positive : 0 < bits)
    (hasUnit : HasUnit (scaledByTwo bits unit) unit)
    (inside : (around (scaledByTwo bits unit)).contains number = true) :
    nearestDouble number = scaledByTwo bits unit := by
  obtain ⟨units, rfl⟩ : ∃ units, number = units * 2 ^ unit :=
    ⟨number / 2 ^ unit, (div_mul_cancel₀ _ (zpow_two_pos unit).ne').symm⟩
  rw [contains_around_iff positive hasUnit] at inside
  obtain ⟨least, small, full⟩ := hasUnit_scaledByTwo_iff.mp hasUnit
  have atLeastOne : (1 : ℚ) ≤ bits := by exact_mod_cast positive
  have bitsLe : (bits : ℚ) + 1 ≤ (2 ^ 53 : ℕ) := by exact_mod_cast small
  by_cases lowerBinade : (bits = 2 ^ 52 ∧ -1074 < unit) ∧ units < bits
  · -- the numbers below a power of two have half its unit
    obtain ⟨⟨lead, coarse⟩, less⟩ := lowerBinade
    rw [reachBelow, if_pos ⟨lead, coarse⟩] at inside
    have close : bits - 1 / 4 ≤ units := by
      rcases inside with ⟨above, -⟩ | ⟨-, same | same⟩ <;> linarith
    have halved : units * 2 ^ unit = 2 * units * 2 ^ (unit - 1) := by
      rw [zpow_sub_one₀ (by norm_num)]
      ring
    have carried : scaledByTwo bits unit = scaledByTwo (2 ^ 53) (unit - 1) := by
      rw [scaledByTwo, scaledByTwo, lead, zpow_sub_one₀ (by norm_num)]
      push_cast
      ring
    rw [lead] at less close
    push_cast at less close
    rw [halved, carried]
    refine nearestDouble_mul (by linarith) (hasUnit_mul_iff.mpr ⟨by omega, ?_, .inr ?_⟩)
      (isNearest_of_even (by norm_num) ?_)
    · push_cast
      linarith
    · push_cast
      linarith
    · push_cast
      rw [abs_le]
      constructor <;> linarith
  · have reach : 0 < reachBelow bits unit ∧ reachBelow bits unit ≤ 1 / 2 := by
      rw [reachBelow]
      split_ifs <;> norm_num
    have lower : bits - 1 / 2 ≤ units := by
      rcases inside with ⟨above, -⟩ | ⟨-, same | same⟩ <;> linarith [reach.1, reach.2]
    have upper : units ≤ bits + 1 / 2 := by
      rcases inside with ⟨-, below⟩ | ⟨-, same | same⟩ <;> linarith [reach.1]
    refine nearestDouble_mul (by linarith) (hasUnit_mul_iff.mpr ⟨least, by linarith, ?_⟩) ?_
    · rcases full with fine | large
      · exact .inl fine
      rcases large.lt_or_eq with more | lead
      · have next : ((2 ^ 52 : ℕ) : ℚ) + 1 ≤ bits := by exact_mod_cast more
        exact .inr (by linarith)
      · by_cases coarse : -1074 < unit
        · exact .inr (by rw [lead]; exact not_lt.mp fun less => lowerBinade ⟨⟨lead.symm, coarse⟩, less⟩)
        · exact .inl (le_antisymm (not_lt.mp coarse) least)
    · rcases inside with ⟨above, below⟩ | ⟨even, -⟩
      · exact .inl (abs_lt.mpr ⟨by linarith [reach.2], by linarith⟩)
      · exact isNearest_of_even even (abs_le.mpr ⟨by linarith, by linarith⟩)

end

end RoundingInterval

/-! ## The shortest decimal -/

section Shortest
variable {value : ℚ}

/-- A double is a whole number of halves of halves, as often as the logarithm of its denominator
says. -/
theorem den_scaledByTwo (bits : ℕ) (unit : ℤ) : ∃ places, (scaledByTwo bits unit).den = 2 ^ places := by
  have sides : (2 : ℚ) ^ unit = 2 ^ unit.toNat / 2 ^ (-unit).toNat := by
    rw [← zpow_natCast, ← zpow_natCast, ← zpow_sub₀ (by norm_num)]
    congr 1
    omega
  have quotient : scaledByTwo bits unit =
      Rat.divInt (bits * 2 ^ unit.toNat : ℤ) (2 ^ (-unit).toNat : ℤ) := by
    rw [Rat.divInt_eq_div, scaledByTwo, sides]
    push_cast
    ring
  have divides : (scaledByTwo bits unit).den ∣ 2 ^ (-unit).toNat := by
    rw [quotient]
    exact_mod_cast Rat.den_dvd (bits * 2 ^ unit.toNat : ℤ) (2 ^ (-unit).toNat : ℤ)
  obtain ⟨places, -, same⟩ := (Nat.dvd_prime_pow Nat.prime_two).mp divides
  exact ⟨places, same⟩

/-- The digits that stand in for the shortest ones are exact. -/
theorem exact_decimal (isPoint : IsGridPoint value) (positive : 0 < value) :
    ((value * 10 ^ (value.den.log2 : ℤ)).num * 10 ^ (-(value.den.log2 : ℤ)) : ℚ) = value := by
  obtain ⟨bits, unit, rfl, -⟩ := isPoint.exists_bits positive
  obtain ⟨places, denominator⟩ := den_scaledByTwo bits unit
  generalize scaledByTwo bits unit = value at *
  rw [denominator, Nat.log2_two_pow]
  -- ten to the power is a multiple of the denominator
  have whole : value * 10 ^ (places : ℤ) = (value.num * 5 ^ places : ℤ) := by
    have den : (2 : ℚ) ^ places = value.den := by
      rw [denominator]
      push_cast
      rfl
    have ten : (10 : ℚ) ^ places = value.den * 5 ^ places := by
      rw [← den, ← mul_pow]
      norm_num
    rw [zpow_natCast, ten, ← mul_assoc, Rat.mul_den_eq_num]
    push_cast
    rfl
  rw [whole, Rat.num_intCast, ← whole, mul_assoc, ← zpow_add₀ (by norm_num), add_neg_cancel,
    zpow_zero, mul_one]

/-- The digits found lie in the rounding interval, and those that stand in are exact. -/
theorem shortestDigits_spec (value : ℚ) :
    (RoundingInterval.around value).contains
        ((shortestDigits value).1 * 10 ^ (shortestDigits value).2) = true ∨
      shortestDigits value =
        ((value * 10 ^ (value.den.log2 : ℤ)).num, -(value.den.log2 : ℤ)) := by
  rw [shortestDigits]
  dsimp only
  cases found : (List.range 17).findSome? _ with
  | none => exact .inr rfl
  | some digits =>
      left
      obtain ⟨more, -, attempt⟩ := List.exists_of_findSome?_eq_some found
      obtain ⟨factor, isFactor, rfl⟩ := Option.map_eq_some_iff.mp attempt
      have inside := List.find?_some isFactor
      exact inside

/-- The shortest decimal of a positive double rounds to the double. -/
theorem nearestDouble_shortestDigits (isPoint : IsGridPoint value) (positive : 0 < value) :
    nearestDouble ((shortestDigits value).1 * 10 ^ (shortestDigits value).2) = value := by
  rcases shortestDigits_spec value with inside | exactly
  · obtain ⟨bits, unit, rfl, hasUnit⟩ := isPoint.exists_bits positive
    exact RoundingInterval.nearestDouble_of_contains (scaledByTwo_pos_iff.mp positive) hasUnit inside
  · rw [exactly]
    dsimp only
    rw [exact_decimal isPoint positive]
    exact isPoint

end Shortest

/-! ## Texts -/

namespace Double

/-- The number is one of the doubles. -/
def IsExact : Double → Prop
  | .finite value => IsGridPoint value ∧ |value| < overflow
  | .infinite _ | .notANumber => True

theorem isExact_ofRat (number : ℚ) : (ofRat number).IsExact := by
  rw [ofRat]
  split_ifs with above below
  · exact trivial
  · exact trivial
  · exact ⟨isGridPoint_nearestDouble number, abs_lt.mpr ⟨not_le.mp below, not_le.mp above⟩⟩

theorem ofRat_of_lt {number : ℚ} (within : |nearestDouble number| < overflow) :
    ofRat number = .finite (nearestDouble number) := by
  obtain ⟨lower, upper⟩ := abs_lt.mp within
  rw [ofRat, if_neg upper.not_ge, if_neg lower.not_ge]

theorem zpow_two_le_ten (places : ℕ) : (2 : ℚ) ^ (places : ℤ) ≤ 10 ^ (places : ℤ) := by
  rw [zpow_natCast, zpow_natCast]
  exact pow_le_pow_left₀ (by norm_num) (by norm_num) places

/-- A number that rounds to a double has a decimal. -/
theorem leadingPlace_bounded {number value : ℚ} (positive : 0 < number)
    (rounds : nearestDouble number = value) (valuePositive : 0 < value)
    (within : value < overflow) :
    -Decimal.exponentLimit ≤ leadingPlace number ∧
      leadingPlace number ≤ Decimal.exponentLimit := by
  obtain ⟨lower, upper⟩ := nearestDouble_close positive (rounds ▸ valuePositive)
  rw [rounds] at lower upper
  have smallest := zpow_two_le_gridPoint (rounds ▸ isGridPoint_nearestDouble number) valuePositive
  have least : (10 : ℚ) ^ (-(1075 : ℕ) : ℤ) ≤ |number| := by
    calc (10 : ℚ) ^ (-(1075 : ℕ) : ℤ) ≤ 2 ^ (-(1075 : ℕ) : ℤ) := by
          rw [zpow_neg, zpow_neg]
          exact inv_anti₀ (zpow_two_pos _) (zpow_two_le_ten 1075)
      _ = 2 ^ (-1074 : ℤ) / 2 := by
          rw [div_eq_mul_inv, ← zpow_sub_one₀ (by norm_num)]
          rfl
      _ ≤ number := (div_le_div_of_nonneg_right smallest (by norm_num)).trans lower
      _ = |number| := (abs_of_pos positive).symm
  have greatest : |number| < (10 : ℚ) ^ ((1025 : ℕ) : ℤ) := by
    calc |number| = number := abs_of_pos positive
      _ ≤ 2 * value := upper
      _ < 2 * 2 ^ (1024 : ℤ) := by
          rw [overflow_eq] at within
          linarith
      _ = 2 ^ ((1025 : ℕ) : ℤ) := by
          rw [← zpow_one_add₀ (by norm_num)]
          rfl
      _ ≤ 10 ^ ((1025 : ℕ) : ℤ) := zpow_two_le_ten 1025
  have fromBelow := (zpow_le_abs_iff positive.ne').mp least
  have fromAbove := (abs_lt_zpow_iff positive.ne').mp greatest
  rw [Decimal.exponentLimit]
  omega

theorem pos_of_nearestDouble_pos {number : ℚ} (positive : 0 < nearestDouble number) :
    0 < number := by
  by_contra! nonpos
  have kept : nearestDouble number ≤ (0 : ℤ) := nearestDouble_le (by norm_num) (by simpa using nonpos)
  rw [Int.cast_zero] at kept
  exact positive.not_ge kept

/-- The shortest digits of a positive double make up a decimal. -/
theorem shortestDigits_bounded {value : ℚ} (exact : (finite value).IsExact)
    (positive : 0 < value) : (shortestDigits value).1 ≠ 0 ∧
      -Decimal.exponentLimit ≤
        leadingPlace ((shortestDigits value).1 * 10 ^ (shortestDigits value).2) ∧
      leadingPlace ((shortestDigits value).1 * 10 ^ (shortestDigits value).2) ≤
        Decimal.exponentLimit := by
  have rounds := nearestDouble_shortestDigits exact.1 positive
  have numberPositive := pos_of_nearestDouble_pos (rounds.symm ▸ positive)
  refine ⟨fun zero => ?_,
    leadingPlace_bounded numberPositive rounds positive (abs_lt.mp exact.2).2⟩
  rw [zero, Int.cast_zero, zero_mul] at numberPositive
  exact lt_irrefl _ numberPositive

/-- A finite double has a decimal that rounds to it. -/
theorem exists_toDecimal {value : ℚ} (exact : (finite value).IsExact) : ∃ decimal,
    (finite value).toDecimal = .finite decimal ∧ nearestDouble decimal.value = value := by
  rw [toDecimal]
  split_ifs with zero negative
  · exact ⟨.zero, rfl, by rw [zero]; simp [nearestDouble]⟩
  · have positive : 0 < -value := neg_pos.mpr negative
    have opposite : (finite (-value)).IsExact := ⟨exact.1.neg, by rw [abs_neg]; exact exact.2⟩
    obtain ⟨nonzero, bounded⟩ := shortestDigits_bounded opposite positive
    have negated : ((-(shortestDigits (-value)).1 : ℤ) * 10 ^ (shortestDigits (-value)).2 : ℚ) =
        -((shortestDigits (-value)).1 * 10 ^ (shortestDigits (-value)).2) := by
      rw [Int.cast_neg, neg_mul]
    obtain ⟨decimal, found, isValue⟩ := ExtendedDecimal.exists_ofScaled (neg_ne_zero.mpr nonzero)
      negated (by rwa [leadingPlace_neg])
    refine ⟨decimal, found, ?_⟩
    rw [isValue, nearestDouble_neg, nearestDouble_shortestDigits opposite.1 positive, neg_neg]
  · have positive : 0 < value := lt_of_le_of_ne (not_lt.mp negative) (Ne.symm zero)
    obtain ⟨nonzero, bounded⟩ := shortestDigits_bounded exact positive
    obtain ⟨decimal, found, isValue⟩ := ExtendedDecimal.exists_ofScaled nonzero rfl bounded
    refine ⟨decimal, found, ?_⟩
    rw [isValue, nearestDouble_shortestDigits exact.1 positive]

def ofDecimal : ExtendedDecimal → Double
  | .finite decimal => ofRat decimal.value
  | .infinite negative => .infinite negative
  | .notANumber => .notANumber

def read? (text : String) : Option Double :=
  (ExtendedDecimal.read? text.toList).map ofDecimal

/-- The text of a double names the double. -/
theorem read?_text {number : Double} (exact : number.IsExact) : read? number.text = some number := by
  cases number with
  | finite value =>
      obtain ⟨decimal, written, rounds⟩ := exists_toDecimal exact
      rw [text, written, ExtendedDecimal.text, Decimal.text, read?, String.toList_ofList,
        ExtendedDecimal.read?_chars, Option.map_some, ofDecimal, ofRat_of_lt (rounds ▸ exact.2), rounds]
  | infinite negative => cases negative <;> rfl
  | notANumber => rfl

end Double

end Eligibility
