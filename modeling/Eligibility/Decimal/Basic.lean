import Eligibility.Decimal.Digits

/-!
# Decimal numbers

A decimal is an integer coefficient and a power of ten, held in the one form whose coefficient
ends in no zero, so equal numbers are equal values.  The exponent of the first digit stays
within `Decimal.exponentLimit`; `ExtendedDecimal.ofScaled` is the only way in, and sends what
is larger to an infinity and what is smaller to zero.
-/

set_option autoImplicit false

namespace Eligibility

/-- The exponent of ten that belongs to the first digit of `coefficient * 10 ^ exponent`. -/
def leadingExponent (coefficient exponent : Int) : Int :=
  exponent + digitCount coefficient.natAbs - 1

def Decimal.exponentLimit : Int := 9000000000000000

/-- The finite decimal `coefficient * 10 ^ exponent`. -/
structure Decimal where
  coefficient : Int
  exponent : Int
  canonical : (coefficient = 0 ∧ exponent = 0) ∨ coefficient % 10 ≠ 0
  bounded : -Decimal.exponentLimit ≤ leadingExponent coefficient exponent ∧
    leadingExponent coefficient exponent ≤ Decimal.exponentLimit
  deriving DecidableEq

inductive ExtendedDecimal where
  | finite (value : Decimal)
  | infinite (negative : Bool)
  | notANumber
  deriving DecidableEq

namespace Decimal

def zero : Decimal where
  coefficient := 0
  exponent := 0
  canonical := .inl ⟨rfl, rfl⟩
  bounded := by decide

instance : Inhabited Decimal := ⟨zero⟩

def leading (value : Decimal) : Int :=
  leadingExponent value.coefficient value.exponent

def dropEachZero (coefficient exponent : Int) : Int × Int :=
  if coefficient ≠ 0 ∧ coefficient % 10 = 0 then
    dropEachZero (coefficient / 10) (exponent + 1)
  else
    (coefficient, exponent)
termination_by coefficient.natAbs
decreasing_by omega

/-- Moves blocks of zeros first, the longest first. -/
def dropBlocks : Nat → Int → Int → Int × Int
  | 0, coefficient, exponent => dropEachZero coefficient exponent
  | level + 1, coefficient, exponent =>
    if coefficient % Digits.blockBound level = 0 then
      dropBlocks level (coefficient / Digits.blockBound level)
        (exponent + Digits.blockLength level)
    else
      dropBlocks level coefficient exponent

def dropZeros (coefficient exponent : Int) : Int × Int :=
  dropBlocks (Digits.levelOfBits coefficient.natAbs.log2) coefficient exponent

theorem dropEachZero_ne_zero (coefficient exponent : Int) (nonzero : coefficient ≠ 0) :
    (dropEachZero coefficient exponent).1 ≠ 0 := by
  fun_induction dropEachZero coefficient exponent with
  | case1 coefficient exponent ends induction => exact induction (by omega)
  | case2 coefficient exponent ends => exact nonzero

theorem dropEachZero_mod_ten (coefficient exponent : Int) (nonzero : coefficient ≠ 0) :
    (dropEachZero coefficient exponent).1 % 10 ≠ 0 := by
  fun_induction dropEachZero coefficient exponent with
  | case1 coefficient exponent ends induction => exact induction (by omega)
  | case2 coefficient exponent ends => exact fun zero => ends ⟨nonzero, zero⟩

/-- Zeros that are put behind a coefficient are dropped again. -/
theorem dropEachZero_mul (places : Nat) (coefficient exponent : Int) (nonzero : coefficient ≠ 0) :
    dropEachZero (coefficient * (Nat.pow 10 places : Nat)) exponent =
      dropEachZero coefficient (exponent + places) := by
  induction places generalizing exponent with
  | zero => simp
  | succ places ih =>
    have step : ((Nat.pow 10 (places + 1) : Nat) : Int) = (Nat.pow 10 places : Nat) * 10 := rfl
    have positive : 0 < Nat.pow 10 places := Nat.pow_pos (by decide)
    have shorter : coefficient * (Nat.pow 10 places : Nat) ≠ 0 :=
      Int.mul_ne_zero nonzero (by omega)
    rw [step, ← Int.mul_assoc, dropEachZero, if_pos ⟨by omega, by omega⟩,
      Int.mul_ediv_cancel _ (by decide), ih]
    congr 1
    omega

theorem dropBlocks_eq (level : Nat) (coefficient exponent : Int) (nonzero : coefficient ≠ 0) :
    dropBlocks level coefficient exponent = dropEachZero coefficient exponent := by
  induction level generalizing coefficient exponent with
  | zero => rfl
  | succ level ih =>
    unfold dropBlocks
    split
    · next divides =>
      have whole := Int.ediv_mul_cancel_of_emod_eq_zero divides
      have quotient : coefficient / Digits.blockBound level ≠ 0 := by
        intro zero
        rw [zero, Int.zero_mul] at whole
        exact nonzero whole.symm
      rw [ih _ _ quotient, ← dropEachZero_mul _ _ _ quotient]
      congr 1
    · exact ih _ _ nonzero

theorem dropZeros_eq (coefficient exponent : Int) (nonzero : coefficient ≠ 0) :
    dropZeros coefficient exponent = dropEachZero coefficient exponent :=
  dropBlocks_eq _ _ _ nonzero

theorem dropZeros_mod_ten (coefficient exponent : Int) (nonzero : coefficient ≠ 0) :
    (dropZeros coefficient exponent).1 % 10 ≠ 0 := by
  rw [dropZeros_eq _ _ nonzero]
  exact dropEachZero_mod_ten _ _ nonzero

theorem dropZeros_ne_zero (coefficient exponent : Int) (nonzero : coefficient ≠ 0) :
    (dropZeros coefficient exponent).1 ≠ 0 := by
  rw [dropZeros_eq _ _ nonzero]
  exact dropEachZero_ne_zero _ _ nonzero

end Decimal

namespace ExtendedDecimal

/-- The decimal `coefficient * 10 ^ exponent`, however its digits are placed. -/
def ofScaled (coefficient exponent : Int) : ExtendedDecimal :=
  if nonzero : coefficient ≠ 0 then
    let scaled := Decimal.dropZeros coefficient exponent
    if within : -Decimal.exponentLimit ≤ leadingExponent scaled.1 scaled.2 ∧
        leadingExponent scaled.1 scaled.2 ≤ Decimal.exponentLimit then
      .finite ⟨scaled.1, scaled.2, .inr (Decimal.dropZeros_mod_ten _ _ nonzero), within⟩
    else if leadingExponent scaled.1 scaled.2 < 0 then
      .finite .zero
    else
      .infinite (coefficient < 0)
  else
    .finite .zero

def finite? : ExtendedDecimal → Option Decimal
  | .finite value => some value
  | .infinite _ | .notANumber => none

end ExtendedDecimal

end Eligibility
