/-!
# Decimal digits

A long number is split into blocks of digits, and each block into two of half the length, before
its digits are counted, written or read one at a time.  The main statements say that the splitting
does not show: `digitCount_eq`, `decimalDigits_eq` and `ofDecimalDigits_eq`.
-/

set_option autoImplicit false

namespace Eligibility

namespace Digits

/-- The number of digits in a block: thirty-two, and twice as many on each further level. -/
def blockLength : Nat → Nat
  | 0 => 32
  | level + 1 => blockLength level + blockLength level

def blockBound (level : Nat) : Nat :=
  Nat.pow 10 (blockLength level)

def levelOfBits (bits : Nat) : Nat :=
  (bits / 64).log2

def levelOfLength (length : Nat) : Nat :=
  (length / 16).log2

def count : Nat → Nat → Nat
  | 0, number => (Nat.toDigits 10 number).length
  | level + 1, number =>
    if number < blockBound level then
      count level number
    else
      count level (number / blockBound level) + blockLength level

def write : Nat → Nat → List Char
  | 0, number => Nat.toDigits 10 number
  | level + 1, number =>
    if number < blockBound level then
      write level number
    else
      write level (number / blockBound level) ++
        (write level (number % blockBound level)).leftpad (blockLength level) '0'

def read : Nat → List Char → Nat
  | 0, characters => Nat.ofDigitChars 10 characters 0
  | level + 1, characters =>
    let surplus := characters.length - blockLength level
    if surplus = 0 then
      read level characters
    else
      read level (characters.take surplus) * blockBound level +
        read level (characters.drop surplus)

end Digits

/-- The number of decimal digits, one for zero. -/
def digitCount (number : Nat) : Nat :=
  Digits.count (Digits.levelOfBits number.log2) number

/-- The decimal digits, the first one not zero unless it is the only one. -/
def decimalDigits (number : Nat) : List Char :=
  Digits.write (Digits.levelOfBits number.log2) number

def integerText (number : Int) : String :=
  let digits := decimalDigits number.natAbs
  String.ofList (if number < 0 then '-' :: digits else digits)

def ofDecimalDigits (characters : List Char) : Nat :=
  Digits.read (Digits.levelOfLength characters.length) characters

/-! ## Blocks and single digits -/

namespace Digits

theorem blockBound_pos (level : Nat) : 0 < blockBound level :=
  Nat.pow_pos (by decide)

/-- The last of at least two places is the last digit, and the others are those of the rest. -/
theorem leftpad_toDigits (places number : Nat) :
    (Nat.toDigits 10 number).leftpad (places + 2) '0' =
      (Nat.toDigits 10 (number / 10)).leftpad (places + 1) '0' ++
        [Nat.digitChar (number % 10)] := by
  by_cases small : number < 10
  · rw [Nat.toDigits_of_lt_base small, Nat.div_eq_of_lt small, Nat.mod_eq_of_lt small,
      Nat.toDigits_zero]
    simp [List.leftpad, List.replicate_succ']
  · rw [Nat.toDigits_of_base_le (by decide) (by omega)]
    simp [List.leftpad]

/-- Splitting off digits leaves the digits of the quotient, and those of the remainder with zeros in
front of them. -/
theorem toDigits_split (places number : Nat) (large : Nat.pow 10 (places + 1) ≤ number) :
    Nat.toDigits 10 (number / Nat.pow 10 (places + 1)) ++
        (Nat.toDigits 10 (number % Nat.pow 10 (places + 1))).leftpad (places + 1) '0' =
      Nat.toDigits 10 number := by
  induction places generalizing number with
  | zero =>
    have base : Nat.pow 10 1 = 10 := rfl
    rw [base] at large ⊢
    rw [Nat.toDigits_of_base_le (by decide) large,
      Nat.toDigits_of_lt_base (Nat.mod_lt number (by decide : 0 < 10))]
    simp [List.leftpad]
  | succ places ih =>
    have step : Nat.pow 10 (places + 1 + 1) = 10 * Nat.pow 10 (places + 1) :=
      Nat.pow_succ'
    have positive : 0 < Nat.pow 10 (places + 1) := Nat.pow_pos (by decide)
    rw [step] at large ⊢
    rw [leftpad_toDigits, Nat.mod_mul_right_div_self, Nat.mod_mul_right_mod,
      ← Nat.div_div_eq_div_mul, ← List.append_assoc,
      ih (number / 10) ((Nat.le_div_iff_mul_le (by decide)).2 (by omega)),
      Nat.toDigits_of_base_le (by decide) (b := 10) (n := number) (by omega)]

theorem blockLength_pos (level : Nat) : 0 < blockLength level := by
  induction level with
  | zero => decide
  | succ level ih => exact Nat.add_pos_left ih _

/-- A block is split off as its single digits are. -/
theorem toDigits_blocks (level number : Nat) (large : ¬ number < blockBound level) :
    Nat.toDigits 10 (number / blockBound level) ++
        (Nat.toDigits 10 (number % blockBound level)).leftpad (blockLength level) '0' =
      Nat.toDigits 10 number := by
  obtain ⟨places, length⟩ := Nat.exists_eq_add_one.2 (blockLength_pos level)
  unfold blockBound at *
  rw [length] at large ⊢
  exact toDigits_split places number (Nat.le_of_not_lt large)

theorem length_toDigits_mod (level number : Nat) :
    (Nat.toDigits 10 (number % blockBound level)).length ≤ blockLength level :=
  (Nat.length_toDigits_le_iff (by decide) (blockLength_pos level)).2
    (Nat.mod_lt number (blockBound_pos level))

theorem write_eq (level number : Nat) : write level number = Nat.toDigits 10 number := by
  induction level generalizing number with
  | zero => rfl
  | succ level ih =>
    unfold write
    split
    · exact ih number
    · next large => rw [ih, ih, toDigits_blocks level number large]

theorem count_eq (level number : Nat) :
    count level number = (Nat.toDigits 10 number).length := by
  induction level generalizing number with
  | zero => rfl
  | succ level ih =>
    unfold count
    split
    · exact ih number
    · next large =>
      have fits := length_toDigits_mod level number
      rw [ih, ← toDigits_blocks level number large, List.length_append, List.length_leftpad]
      omega

theorem read_eq (level : Nat) (characters : List Char) :
    read level characters = Nat.ofDigitChars 10 characters 0 := by
  induction level generalizing characters with
  | zero => rfl
  | succ level ih =>
    unfold read
    by_cases short : characters.length - blockLength level = 0
    · simp only [short, ↓reduceIte]
      exact ih characters
    · simp only [short, ↓reduceIte]
      conv => rhs; rw [← List.take_append_drop (characters.length - blockLength level) characters,
        Nat.ofDigitChars_append, Nat.ofDigitChars_eq_ofDigitChars_zero]
      have rest : (characters.drop (characters.length - blockLength level)).length =
          blockLength level := by
        rw [List.length_drop]
        omega
      rw [ih, ih, rest, Nat.mul_comm]
      rfl

end Digits

theorem digitCount_eq (number : Nat) :
    digitCount number = (Nat.toDigits 10 number).length :=
  Digits.count_eq _ number

theorem decimalDigits_eq (number : Nat) : decimalDigits number = Nat.toDigits 10 number :=
  Digits.write_eq _ number

theorem ofDecimalDigits_eq (characters : List Char) :
    ofDecimalDigits characters = Nat.ofDigitChars 10 characters 0 :=
  Digits.read_eq _ characters

end Eligibility
