import Eligibility.Decimal.Reader
import Eligibility.Decimal.Text
import Eligibility.Proofs.Basic
import Eligibility.Proofs.Decimal.Results

/-!
# Decimals read back

The text of a decimal is read as the decimal.  Wherever the point stands and whether an exponent is
written, the digits of the text are those of the coefficient, with zeros on either side.
-/

set_option autoImplicit false

namespace Eligibility

/-! ## Digits -/

theorem isDigit_digits {number : ℕ} {character : Char}
    (member : character ∈ Nat.toDigits 10 number) : character.isDigit = true :=
  Nat.isDigit_of_mem_toDigits (by decide) (by decide) member

theorem isDigit_decimalDigits (number : ℕ) :
    ∀ character ∈ decimalDigits number, character.isDigit = true := by
  rw [decimalDigits_eq]
  exact fun _ => isDigit_digits

theorem decimalDigits_ne_nil (number : ℕ) : decimalDigits number ≠ [] := by
  rw [decimalDigits_eq]
  exact Nat.toDigits_ne_nil

theorem readDigits?_eq {characters : List Char} (nonempty : characters ≠ [])
    (digits : ∀ character ∈ characters, character.isDigit = true) :
    Literal.readDigits? characters = some (Nat.ofDigitChars 10 characters 0) := by
  rw [Literal.readDigits?, if_pos ⟨nonempty, List.all_eq_true.mpr digits⟩, ofDecimalDigits_eq]

theorem ne_of_isDigit {character other : Char} (digit : character.isDigit = true)
    (isOther : other.isDigit = false) : character ≠ other := by
  rintro rfl
  exact Bool.false_ne_true (isOther.symm.trans digit)

namespace Decimal

def IsNumeral (character : Char) : Prop :=
  character.isDigit = true ∨ character ∈ ['-', '+', '.', 'e']

theorem isDigit_zeros (count : ℕ) : ∀ character ∈ zeros count, character.isDigit = true := by
  intro character member
  rw [List.eq_of_mem_replicate member]
  rfl

theorem ofDigitChars_zeros_around (digits : List Char) (before after : ℕ) :
    Nat.ofDigitChars 10 (zeros before ++ digits ++ zeros after) 0 =
      Nat.ofDigitChars 10 digits 0 * 10 ^ after := by
  rw [Nat.ofDigitChars_append, Nat.ofDigitChars_append, zeros, zeros,
    Nat.ofDigitChars_replicate_zero, Nat.ofDigitChars_replicate_zero, mul_zero, mul_comm]

end Decimal

/-! ## Literals -/

namespace Literal

/-- What stands behind the digits of a literal: it goes on with no digit and no point. -/
def IsTail (tail : List Char) : Prop :=
  ∀ character ∈ tail.head?, character.isDigit = false ∧ character ≠ '.'

/-- Digits with a point among them and a tail are a literal with the exponent of the tail. -/
theorem readDecimal?_eq (whole fraction tail : List Char) (nonempty : whole ≠ [])
    (isWhole : ∀ character ∈ whole, character.isDigit = true)
    (isFraction : ∀ character ∈ fraction, character.isDigit = true) (isTail : IsTail tail) :
    readDecimal? (whole ++ Decimal.fractionText fraction ++ tail) =
      (readExponent? 'e' tail).map (Literal.mk whole fraction) := by
  have ends : ∀ character ∈ tail.head?, character.isDigit = false :=
    fun character found => (isTail character found).1
  rw [readDecimal?, read?, List.append_assoc]
  by_cases pointless : fraction = []
  · obtain ⟨front, back⟩ := cut_append whole tail isWhole ends
    rw [pointless, Decimal.fractionText, if_pos rfl, List.nil_append, front, back]
    split
    · exact absurd rfl (isTail '.' rfl).2
    · exact if_neg nonempty
  · obtain ⟨front, back⟩ := cut_append whole ('.' :: (fraction ++ tail)) isWhole (by simp)
    obtain ⟨inFraction, behind⟩ := cut_append fraction tail isFraction ends
    rw [Decimal.fractionText, if_neg pointless, List.cons_append, front, back]
    simp only [inFraction, behind, nonempty, false_and, if_false]

theorem isTail_nil : IsTail [] := by
  simp [IsTail]

theorem isTail_exponentText (exponent : ℤ) : IsTail (Decimal.exponentText exponent) := by
  intro character found
  rw [Decimal.exponentText, List.head?_cons, Option.mem_some_iff] at found
  subst found
  decide

theorem isNumeral_exponentText (exponent : ℤ) :
    ∀ character ∈ Decimal.exponentText exponent, Decimal.IsNumeral character := by
  intro character member
  rw [Decimal.exponentText, List.mem_cons, List.mem_cons] at member
  rcases member with rfl | rfl | digit
  · exact .inr (by simp)
  · split <;> exact .inr (by simp)
  · exact .inl (isDigit_decimalDigits _ character digit)

theorem readExponent?_exponentText (exponent : ℤ) :
    readExponent? 'e' (Decimal.exponentText exponent) = some exponent := by
  have digits : readDigits? (decimalDigits exponent.natAbs) = some exponent.natAbs := by
    rw [readDigits?_eq (decimalDigits_ne_nil _) (isDigit_decimalDigits _), decimalDigits_eq,
      Nat.ofDigitChars_ten_toDigits]
  rw [Decimal.exponentText, readExponent?, if_pos (by decide)]
  by_cases negative : exponent < 0
  · rw [if_pos negative, readSigned?, digits]
    exact congrArg some (by omega : -(exponent.natAbs : ℤ) = exponent)
  · rw [if_neg negative, readSigned?, digits]
    exact congrArg some (by omega : (exponent.natAbs : ℤ) = exponent)

end Literal

namespace Decimal

/-- How a magnitude is written: the digits in front of the point, those behind it, and the exponent
that the text ends with.  The digits are there with zeros on either side. -/
structure IsWritten (digits : List Char) (exponent : ℤ) (whole fraction tail : List Char)
    (shift : ℤ) : Prop where
  nonempty : whole ≠ []
  isTail : Literal.IsTail tail
  isNumeral : ∀ character ∈ tail, IsNumeral character
  shifts : Literal.readExponent? 'e' tail = some shift
  padded : ∃ before after : ℕ, whole ++ fraction = zeros before ++ digits ++ zeros after ∧
    shift - fraction.length + after = exponent

/-- Each of the four ways to write a magnitude. -/
theorem layout_isWritten (digits : List Char) (nonempty : digits ≠ []) (exponent : ℤ) :
    ∃ whole fraction tail shift, layout digits exponent = whole ++ fractionText fraction ++ tail ∧
      IsWritten digits exponent whole fraction tail shift := by
  have positive := List.length_pos_iff.mpr nonempty
  rw [layout]
  split_ifs with scientific whole straddles
  · refine ⟨digits.take 1, digits.drop 1, _, _, rfl, ?_, Literal.isTail_exponentText _,
      Literal.isNumeral_exponentText _, Literal.readExponent?_exponentText _, 0, 0, ?_, ?_⟩
    · simp [nonempty]
    · rw [List.take_append_drop]
      simp [zeros]
    · rw [List.length_drop]
      omega
  · refine ⟨digits ++ zeros exponent.toNat, [], [], 0, ?_, ?_, Literal.isTail_nil,
      by simp, rfl, 0, exponent.toNat, ?_, ?_⟩
    · simp [fractionText]
    · simp [nonempty]
    · simp [zeros]
    · simp [whole]
  · refine ⟨_, _, [], 0, (List.append_nil _).symm, ?_, Literal.isTail_nil,
      by simp, rfl, 0, 0, ?_, ?_⟩
    · rw [ne_eq, List.take_eq_nil_iff]
      exact not_or.mpr ⟨by omega, nonempty⟩
    · rw [List.take_append_drop]
      simp [zeros]
    · rw [List.length_drop]
      omega
  · refine ⟨['0'], zeros (-(exponent + digits.length - 1) - 1).toNat ++ digits, [], 0, ?_, ?_,
      Literal.isTail_nil, by simp, rfl,
      (-(exponent + digits.length - 1) - 1).toNat + 1, 0, ?_, ?_⟩
    · simp [fractionText, nonempty]
    · simp
    · simp [zeros, List.replicate_succ]
    · rw [List.length_append, zeros, List.length_replicate]
      omega

theorem isWritten_digits {digits : List Char} {exponent : ℤ} {whole fraction tail : List Char}
    {shift : ℤ} (written : IsWritten digits exponent whole fraction tail shift)
    (isNumber : ∀ character ∈ digits, character.isDigit = true) :
    ∀ character ∈ whole ++ fraction, character.isDigit = true := by
  obtain ⟨before, after, same, -⟩ := written.padded
  intro character member
  rw [same, List.mem_append, List.mem_append] at member
  rcases member with (zero | digit) | zero
  · exact isDigit_zeros before character zero
  · exact isNumber character digit
  · exact isDigit_zeros after character zero

theorem isNumeral_layout (digits : List Char) (nonempty : digits ≠ []) (exponent : ℤ)
    (isNumber : ∀ character ∈ digits, character.isDigit = true) :
    ∀ character ∈ layout digits exponent, IsNumeral character := by
  obtain ⟨whole, fraction, tail, shift, laidOut, written⟩ := layout_isWritten digits nonempty exponent
  have inDigits := isWritten_digits written isNumber
  intro character member
  rw [laidOut, List.mem_append, List.mem_append] at member
  rcases member with (inWhole | inFraction) | inTail
  · exact .inl (inDigits character (List.mem_append_left _ inWhole))
  · rw [fractionText] at inFraction
    split at inFraction
    · cases inFraction
    · rcases List.mem_cons.mp inFraction with rfl | digit
      · exact .inr (by simp)
      · exact .inl (inDigits character (List.mem_append_right _ digit))
  · exact written.isNumeral character inTail

theorem isNumeral_chars (decimal : Decimal) :
    ∀ character ∈ decimal.chars, IsNumeral character := by
  have inLayout := isNumeral_layout _ (decimalDigits_ne_nil decimal.coefficient.natAbs)
    decimal.exponent (isDigit_decimalDigits _)
  intro character member
  rw [chars] at member
  split at member
  · rcases List.mem_cons.mp member with rfl | behind
    · exact .inr (by simp)
    · exact inLayout character behind
  · exact inLayout character member

theorem not_mem_chars (decimal : Decimal) (character : Char) (foreign : ¬IsNumeral character) :
    character ∉ decimal.chars :=
  fun member => foreign (decimal.isNumeral_chars character member)

theorem layout_starts (digits : List Char) (nonempty : digits ≠ []) (exponent : ℤ)
    (isNumber : ∀ character ∈ digits, character.isDigit = true) :
    ∃ first rest, layout digits exponent = first :: rest ∧ first.isDigit = true := by
  obtain ⟨whole, fraction, tail, shift, laidOut, written⟩ := layout_isWritten digits nonempty exponent
  obtain ⟨first, rest, rfl⟩ := List.exists_cons_of_ne_nil written.nonempty
  rw [laidOut]
  exact ⟨first, _, rfl, isWritten_digits written isNumber first (by simp)⟩

/-- The literal of a written magnitude stands for the number. -/
theorem literal_value {digits : List Char} {exponent : ℤ} {whole fraction tail : List Char}
    {shift : ℤ} (written : IsWritten digits exponent whole fraction tail shift) :
    (ofDecimalDigits (whole ++ fraction) * 10 ^ (shift - fraction.length) : ℚ) =
      Nat.ofDigitChars 10 digits 0 * 10 ^ exponent := by
  obtain ⟨before, after, same, place⟩ := written.padded
  rw [ofDecimalDigits_eq, same, ofDigitChars_zeros_around, ← place, zpow_add₀ (by norm_num)]
  push_cast
  rw [zpow_natCast]
  ring

end Decimal

namespace ExtendedDecimal

/-- Within the limits of the exponent there is a decimal for the number. -/
theorem exists_ofScaled {coefficient exponent : ℤ} {number : ℚ} (nonzero : coefficient ≠ 0)
    (isNumber : (coefficient * 10 ^ exponent : ℚ) = number)
    (bounded : -Decimal.exponentLimit ≤ leadingPlace number ∧
      leadingPlace number ≤ Decimal.exponentLimit) :
    ∃ decimal, ofScaled coefficient exponent = .finite decimal ∧ decimal.value = number := by
  rcases ofScaled_cases nonzero exponent isNumber with ⟨-, decimal⟩ | ⟨small, -⟩ | ⟨large, -⟩
  · exact decimal
  · exact absurd bounded.1 (not_le.mpr small)
  · exact absurd bounded.2 (not_le.mpr large)

theorem ofScaled_of_value {coefficient exponent : ℤ} {decimal : Decimal}
    (same : (coefficient * 10 ^ exponent : ℚ) = decimal.value) :
    ofScaled coefficient exponent = .finite decimal := by
  by_cases zero : coefficient = 0
  · rw [zero, Int.cast_zero, zero_mul, ← Decimal.value_zero] at same
    rw [zero, ofScaled_zero, Decimal.value_injective same]
  · have nonzero : decimal.value ≠ 0 := by
      rw [← same]
      exact mul_ne_zero (Int.cast_ne_zero.mpr zero) (zpow_ten_pos _).ne'
    obtain ⟨read, found, value⟩ := exists_ofScaled zero same (decimal.leadingPlace_bounded nonzero)
    rw [found, Decimal.value_injective value]

theorem dropSeparators_eq_self {characters : List Char} (plain : '_' ∉ characters) :
    dropSeparators characters = characters := by
  fun_induction dropSeparators characters with
  | case1 => simp at plain
  | case2 => simp at plain
  | case3 character rest notBetween ih =>
      rw [ih fun member => plain (List.mem_cons_of_mem character member)]
  | case4 => rfl

theorem readUnsigned?_layout (negative : Bool) (number : ℕ) (exponent : ℤ) (decimal : Decimal)
    (same : decimal.value = (if negative then -(number : ℚ) else number) * 10 ^ exponent) :
    readUnsigned? negative (Decimal.layout (decimalDigits number) exponent) =
      some (.finite decimal) := by
  obtain ⟨whole, fraction, tail, shift, laidOut, written⟩ :=
    Decimal.layout_isWritten (decimalDigits number) (decimalDigits_ne_nil number) exponent
  have digits := Decimal.isWritten_digits written (isDigit_decimalDigits number)
  have value := Decimal.literal_value written
  rw [decimalDigits_eq, Nat.ofDigitChars_ten_toDigits] at value
  rw [readUnsigned?, laidOut, Literal.readDecimal?_eq whole fraction tail written.nonempty
    (fun character member => digits character (List.mem_append_left _ member))
    (fun character member => digits character (List.mem_append_right _ member)) written.isTail,
    written.shifts]
  refine congrArg some (ofScaled_of_value ?_)
  rw [same]
  cases negative
  · exact_mod_cast value
  · rw [if_pos rfl, if_pos rfl, Int.cast_neg, neg_mul, neg_mul]
    exact congrArg Neg.neg (by exact_mod_cast value)

/-- The text of a decimal is read as the decimal. -/
theorem read?_chars (decimal : Decimal) : read? decimal.chars = some (.finite decimal) := by
  have isNumber := isDigit_decimalDigits decimal.coefficient.natAbs
  have nonempty := decimalDigits_ne_nil decimal.coefficient.natAbs
  have plain := decimal.not_mem_chars '_' (by simp [Decimal.IsNumeral])
  rw [read?, dropSeparators_eq_self plain, Decimal.chars]
  by_cases negative : decimal.coefficient < 0
  · have signed : (decimal.coefficient.natAbs : ℤ) = -decimal.coefficient := by omega
    rw [if_pos negative]
    refine readUnsigned?_layout true _ _ decimal ?_
    rw [if_pos rfl, Decimal.value, ← Int.cast_natCast, signed, Int.cast_neg, neg_neg]
  · obtain ⟨first, rest, starts, digit⟩ := Decimal.layout_starts _ nonempty decimal.exponent isNumber
    have signed : (decimal.coefficient.natAbs : ℤ) = decimal.coefficient := by omega
    rw [if_neg negative]
    have read := readUnsigned?_layout false decimal.coefficient.natAbs decimal.exponent decimal (by
      rw [if_neg Bool.false_ne_true, Decimal.value, ← Int.cast_natCast, signed])
    rw [starts] at read ⊢
    have noMinus : first ≠ '-' := ne_of_isDigit digit rfl
    have noPlus : first ≠ '+' := ne_of_isDigit digit rfl
    split
    next behind minus => exact absurd (List.cons.inj minus).1 noMinus
    next behind plus => exact absurd (List.cons.inj plus).1 noPlus
    next => exact read

end ExtendedDecimal

end Eligibility
