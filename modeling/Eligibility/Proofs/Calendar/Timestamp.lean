import Eligibility.Calendar.Text
import Eligibility.Calendar.Timestamp
import Eligibility.Proofs.Calendar.Moment
import Eligibility.Proofs.Decimal.Reading
import Eligibility.Proofs.Double.Whole
import Eligibility.Proofs.Text.Trimming

/-!
# Timestamps read back

The timestamp of an instant in a year of four digits is read as the instant at the start of its
second.  The text is taken apart where it was put together: date, time and zone, then the parts of
the date and the units of the time, each of them a fixed number of digits.
-/

set_option autoImplicit false

namespace Eligibility

/-! ## Digits -/

section Padded
variable (width number : ℕ)

theorem isDigit_padded : ∀ character ∈ padded width number, character.isDigit = true := by
  intro character member
  rw [padded, List.mem_append, List.mem_replicate] at member
  rcases member with ⟨-, rfl⟩ | isDigit
  · rfl
  · exact isDigit_digits isDigit

theorem padded_ne_nil : padded width number ≠ [] := by
  rw [padded]
  exact fun empty => Nat.toDigits_ne_nil (List.append_eq_nil_iff.mp empty).2

theorem ofDigitChars_padded : Nat.ofDigitChars 10 (padded width number) 0 = number := by
  rw [padded, Nat.ofDigitChars_append, Nat.ofDigitChars_replicate_zero, mul_zero]
  exact Nat.ofDigitChars_ten_toDigits

theorem readDigits?_padded : Literal.readDigits? (padded width number) = some number := by
  rw [readDigits?_eq (padded_ne_nil width number) (isDigit_padded width number),
    ofDigitChars_padded]

theorem length_padded (positive : 0 < width) (fits : number < 10 ^ width) :
    (padded width number).length = width := by
  have short := (Nat.length_toDigits_le_iff (by decide) positive).mpr fits
  rw [padded, List.length_append, List.length_replicate]
  omega

/-- Two digits, as the timestamp has them. -/
theorem padded_two (fits : number < 100) : ∃ tens ones, padded 2 number = [tens, ones] ∧
    tens.isDigit = true ∧ ones.isDigit = true := by
  have length := length_padded 2 number (by decide) fits
  have digits := isDigit_padded 2 number
  obtain ⟨tens, ones, same⟩ := List.length_eq_two.mp length
  rw [same] at digits ⊢
  exact ⟨tens, ones, rfl, digits tens (by simp), digits ones (by simp)⟩

end Padded

theorem Calendar.monthLength_le (year : ℤ) (month : ℕ) : monthLength year month ≤ 31 := by
  have each : ∀ leap, ∀ length ∈ monthLengths leap, length ≤ 31 := by decide
  rw [monthLength, List.getD_eq_getElem?_getD]
  cases found : (monthLengths (isLeapYear year))[month - 1]? with
  | none => exact Nat.zero_le 31
  | some length => exact each _ length (List.mem_of_getElem? found)

namespace Timestamp

/-! ## Parts -/

def IsDatePart (characters : List Char) : Prop :=
  ∀ character ∈ characters, character.isDigit = true ∨ character = '-'

def IsTimePart (characters : List Char) : Prop :=
  ∀ character ∈ characters, character.isDigit = true ∨ character = ':'

section Classes
variable {character : Char}

theorem date_plain (isDate : character.isDigit = true ∨ character = '-') :
    separatesTime character = false ∧ isZuluLetter character = false ∧ character ≠ ':' := by
  rcases isDate with digit | rfl
  · simp [separatesTime, isZuluLetter, ne_of_isDigit digit]
  · decide

theorem time_plain (isTime : character.isDigit = true ∨ character = ':') :
    separatesTime character = false ∧ startsZone character = false ∧
      endsLine character = false := by
  rcases isTime with digit | rfl
  · simp [separatesTime, startsZone, endsLine, ne_of_isDigit digit]
  · decide

end Classes

theorem splitZone?_zulu (date time : List Char) (isTime : IsTimePart time) :
    splitZone? date (time ++ ['Z']) = some ⟨date, time, ['Z']⟩ := by
  have oneLine : (time ++ ['Z']).any endsLine = false := by
    rw [List.any_append, List.any_eq_false.mpr fun character member => by
      simp [(time_plain (isTime character member)).2.2]]
    rfl
  have beforeZone : ∀ character ∈ time, (!startsZone character) = true := fun character member => by
    simp [(time_plain (isTime character member)).2.1]
  rw [splitZone?, oneLine, if_neg Bool.false_ne_true, List.takeWhile_append_of_pos beforeZone,
    List.dropWhile_append_of_pos beforeZone]
  simp [startsZone]

theorem split?_date_time (date time : List Char) (isDate : IsDatePart date)
    (isTime : IsTimePart time) :
    split? (date ++ 'T' :: (time ++ ['Z'])) = some ⟨date, time, ['Z']⟩ := by
  have inDate : ∀ character ∈ date, (!separatesTime character) = true := fun character member => by
    simp [(date_plain (isDate character member)).1]
  have head : (date ++ 'T' :: (time ++ ['Z'])).takeWhile (!separatesTime ·) = date := by
    rw [List.takeWhile_append_of_pos inDate]
    simp [separatesTime]
  have tail : (date ++ 'T' :: (time ++ ['Z'])).dropWhile (!separatesTime ·) =
      'T' :: (time ++ ['Z']) := by
    rw [List.dropWhile_append_of_pos inDate]
    simp [separatesTime]
  have single : (time ++ ['Z']).any separatesTime = false := by
    rw [List.any_append, List.any_eq_false.mpr fun character member => by
      simp [(time_plain (isTime character member)).1]]
    rfl
  have noColon : ':' ∉ date := fun member => (date_plain (isDate _ member)).2.2 rfl
  have noLetter : date.any isZuluLetter = false := List.any_eq_false.mpr fun character member => by
    simp [(date_plain (isDate character member)).2.1]
  rw [split?, head, tail, List.drop_one, List.tail_cons]
  simp only [single, noColon, noLetter, Bool.false_eq_true, or_self, if_false]
  exact splitZone?_zulu date time isTime

/-! ## Dates -/

theorem takeNumber?_append (digits rest : List Char) (nonempty : digits ≠ [])
    (isNumber : ∀ character ∈ digits, character.isDigit = true) :
    takeNumber? digits.length (digits ++ rest) = some (Nat.ofDigitChars 10 digits 0, rest) := by
  rw [takeNumber?, if_neg (by simp), List.take_left, List.drop_left,
    readDigits?_eq nonempty isNumber]
  rfl

theorem readYear?_padded (year : ℕ) (fourDigits : year < 10 ^ 4) (rest : List Char) :
    readYear? (padded 4 year ++ rest) = some ((year : ℤ), rest) := by
  have read := takeNumber?_append (padded 4 year) rest (padded_ne_nil 4 year)
    (isDigit_padded 4 year)
  rw [length_padded 4 year (by decide) fourDigits, ofDigitChars_padded] at read
  rw [readYear?, read]

theorem readDayOfYear?_padded (month day : ℕ) (monthFits : month < 100) (dayFits : day < 100) :
    readDayOfYear? ('-' :: padded 2 month ++ '-' :: padded 2 day) = some (.ofMonth month day) := by
  have readMonth := readDigits?_padded 2 month
  have readDay := readDigits?_padded 2 day
  obtain ⟨first, second, monthDigits, firstDigit, -⟩ := padded_two month monthFits
  obtain ⟨third, fourth, dayDigits, -, -⟩ := padded_two day dayFits
  rw [monthDigits] at readMonth ⊢
  rw [dayDigits] at readDay ⊢
  have notWeek : first ≠ 'W' := ne_of_isDigit firstDigit rfl
  change readDayOfYear? ['-', first, second, '-', third, fourth] = _
  simp [readDayOfYear?, notWeek, readMonth, readDay]

/-- A date in the extended form is read as its day. -/
theorem readDay?_date (year : ℕ) (date : CivilDate) (isYear : date.year = year)
    (fourDigits : year < 10 ^ 4) (existing : date.Exists) (inRange : dayInRange date.toDay = true) :
    readDay? (padded 4 year ++ ('-' :: padded 2 date.month ++ '-' :: padded 2 date.day)) =
      some date.toDay := by
  have monthLength := Calendar.monthLength_le date.year date.month
  have readRest := readDayOfYear?_padded date.month date.day (by have := existing.2.1; omega)
    (by have := existing.2.2.2; omega)
  have resolved : (DayOfYear.ofMonth date.month date.day).resolve? year = some date.toDay := by
    rw [← isYear]
    exact if_pos existing
  simp only [readDay?, readYear?_padded year fourDigits, readRest, Option.bind_some, resolved,
    Option.filter_some, inRange, if_true]

/-! ## Times -/

theorem nearestDouble_whole (number : ℤ) (small : |number| < 2 ^ 53) :
    nearestDouble number = number :=
  le_antisymm (nearestDouble_le small le_rfl) (le_nearestDouble small le_rfl)

theorem readUnit?_padded {α : Type} (readRest? : List Char → Option α) (number : ℕ)
    (fits : number < 100) (rest : List Char)
    (noFraction : ∀ mark ∈ rest.head?, mark ≠ '.' ∧ mark ≠ ',') :
    readUnit? readRest? (padded 2 number ++ rest) =
      (readRest? rest).map fun read => (⟨padded 2 number, []⟩, read) := by
  obtain ⟨tens, ones, digits, tensDigit, onesDigit⟩ := padded_two number fits
  rw [digits]
  rcases rest with _ | ⟨mark, tail⟩
  · simp [readUnit?, tensDigit, onesDigit, Function.comp_def]
  · obtain ⟨noPoint, noComma⟩ := noFraction mark rfl
    simp [readUnit?, tensDigit, onesDigit, noPoint, noComma, Function.comp_def]

theorem readUnits?_colon (count number : ℕ) (fits : number < 100) (rest : List Char)
    (noFraction : ∀ mark ∈ rest.head?, mark ≠ '.' ∧ mark ≠ ',') :
    readUnits? (count + 1) (':' :: padded 2 number ++ rest) =
      (readUnits? count rest).map fun units => ⟨padded 2 number, []⟩ :: units := by
  simp only [List.cons_append, readUnits?, readUnit?_padded _ number fits rest noFraction,
    Option.map_map, Function.comp_def]

theorem readClock?_padded (hours minutes seconds : ℕ) (hourFits : hours < 100)
    (minuteFits : minutes < 100) (secondFits : seconds < 100) :
    readClock? (padded 2 hours ++ ':' :: padded 2 minutes ++ ':' :: padded 2 seconds) =
      some [⟨padded 2 hours, []⟩, ⟨padded 2 minutes, []⟩, ⟨padded 2 seconds, []⟩] := by
  have lastUnit := readUnits?_colon 0 seconds secondFits [] (by simp)
  have units := readUnits?_colon 1 minutes minuteFits (':' :: padded 2 seconds) (by simp)
  rw [List.append_nil] at lastUnit
  rw [readClock?, List.append_assoc, readUnit?_padded _ hours hourFits _ (by simp), units, lastUnit]
  rfl

theorem value_padded (number : ℕ) (fits : number < 100) :
    UnitText.value ⟨padded 2 number, []⟩ = number := by
  have whole : nearestDouble (number : ℤ) = (number : ℤ) := nearestDouble_whole number (by rw [Nat.abs_cast]; omega)
  rw [UnitText.value, List.append_nil, ofDecimalDigits_eq, ofDigitChars_padded, List.length_nil]
  simpa using whole

def clockTotal (hours minutes seconds : ℕ) : ℤ :=
  hours * 3600000 + minutes * 60000 + seconds * 1000

theorem clockMilliseconds?_whole (hours minutes seconds : ℕ) (hourFits : hours < 24)
    (minuteFits : minutes < 60) (secondFits : seconds < 60) :
    clockMilliseconds? hours minutes seconds = some ↑(clockTotal hours minutes seconds) := by
  have inDay : (hours : ℚ) ≠ 24 ∧ (hours : ℚ) < 25 ∧ (minutes : ℚ) < 60 ∧ (seconds : ℚ) < 60 := by
    refine ⟨?_, ?_, ?_, ?_⟩
    · exact_mod_cast hourFits.ne
    all_goals norm_cast
    omega
  -- each product and each sum is a whole number far below `2 ^ 53`
  have ofHours : nearestDouble (hours * 3600000) = (hours * 3600000 : ℤ) := by
    exact_mod_cast nearestDouble_whole (hours * 3600000) (by rw [abs_lt]; omega)
  have ofMinutes : nearestDouble (minutes * 60000) = (minutes * 60000 : ℤ) := by
    exact_mod_cast nearestDouble_whole (minutes * 60000) (by rw [abs_lt]; omega)
  have ofSeconds : nearestDouble (seconds * 1000) = (seconds * 1000 : ℤ) := by
    exact_mod_cast nearestDouble_whole (seconds * 1000) (by rw [abs_lt]; omega)
  rw [clockMilliseconds?, if_pos (.inr inDay), ofHours, ofMinutes, ofSeconds, ← Int.cast_add,
    nearestDouble_whole _ (by rw [abs_lt]; omega), ← Int.cast_add,
    nearestDouble_whole _ (by rw [abs_lt]; omega), clockTotal]

theorem readTime?_padded (hours minutes seconds : ℕ) (hourFits : hours < 24)
    (minuteFits : minutes < 60) (secondFits : seconds < 60) :
    readTime? (padded 2 hours ++ ':' :: padded 2 minutes ++ ':' :: padded 2 seconds) =
      some ↑(clockTotal hours minutes seconds) := by
  rw [readTime?, if_neg (by simp), readClock?_padded hours minutes seconds (by omega) (by omega)
    (by omega), Option.bind_some]
  simp only [List.getElem?_cons_zero, List.getElem?_cons_succ, Option.map_some, Option.getD_some]
  rw [value_padded hours (by omega), value_padded minutes (by omega),
    value_padded seconds (by omega)]
  exact clockMilliseconds?_whole hours minutes seconds hourFits minuteFits secondFits

/-! ## Instants -/

theorem combine?_whole (day time : ℤ) (small : |day * dayLength + time| < 2 ^ 53) :
    combine? day time 0 = Instant.ofMilliseconds? (day * dayLength + time) := by
  have cast : (day * dayLength + time : ℚ) = (day * dayLength + time : ℤ) := by push_cast; rfl
  rw [combine?, cast, nearestDouble_whole _ small, Int.cast_zero, add_zero,
    nearestDouble_whole _ small, instantOf?, Rat.num_intCast, Rat.den_intCast, Nat.cast_one,
    Int.tdiv_one]

end Timestamp

namespace Instant

def wholeSecond (instant : Instant) : Instant where
  milliseconds := instant.milliseconds / 1000 * 1000
  inRange := by
    have within := instant.inRange
    rw [limit] at within ⊢
    omega

theorem wholeSecond_of_whole (instant : Instant) (whole : instant.milliseconds % 1000 = 0) :
    instant.wholeSecond = instant :=
  ext_milliseconds (by dsimp only [wholeSecond]; omega)

theorem timestamp_eq (instant : Instant) :
    instant.timestamp = yearText instant.date.year ++
      ('-' :: padded 2 instant.date.month ++ '-' :: padded 2 instant.date.day) ++
        'T' :: (instant.clockText ++ ['Z']) := by
  simp [timestamp]

theorem isTimePart_clockText (instant : Instant) : Timestamp.IsTimePart instant.clockText := by
  intro character member
  simp only [clockText, List.mem_append, List.mem_cons] at member
  rcases member with (hours | rfl | minutes) | rfl | seconds
  · exact .inl (isDigit_padded _ _ character hours)
  · exact .inr rfl
  · exact .inl (isDigit_padded _ _ character minutes)
  · exact .inr rfl
  · exact .inl (isDigit_padded _ _ character seconds)

theorem yearText_of_nonneg {year : ℤ} (nonneg : 0 ≤ year) :
    yearText year = padded 4 year.natAbs := by
  rw [yearText, if_neg (by omega)]

variable (instant : Instant) (fromZero : 0 ≤ instant.date.year)
  (fourDigits : instant.date.year ≤ 9999)

include fromZero

theorem isDatePart_date : Timestamp.IsDatePart (yearText instant.date.year ++
    ('-' :: padded 2 instant.date.month ++ '-' :: padded 2 instant.date.day)) := by
  intro character member
  rw [yearText_of_nonneg fromZero] at member
  simp only [List.mem_append, List.mem_cons] at member
  rcases member with year | (rfl | month) | rfl | day
  · exact .inl (isDigit_padded _ _ character year)
  · exact .inr rfl
  · exact .inl (isDigit_padded _ _ character month)
  · exact .inr rfl
  · exact .inl (isDigit_padded _ _ character day)

theorem isTrimmed_timestamp : Text.IsTrimmed instant.timestamp := by
  constructor
  · intro character found
    rw [timestamp_eq, yearText_of_nonneg fromZero] at found
    simp only [List.append_assoc, List.head?_append_of_ne_nil _ (padded_ne_nil _ _)] at found
    exact Text.isBlank_of_isDigit (isDigit_padded _ _ character (List.mem_of_mem_head? found))
  · intro character found
    rw [timestamp, List.getLast?_concat, Option.mem_some_iff] at found
    subst found
    decide

include fourDigits

/-- A timestamp with a year of four digits is read as the start of its second. -/
theorem read?_timestamp : Timestamp.read? instant.timestamp = some instant.wholeSecond := by
  have inDay := instant.timeOfDay_lt
  have within := instant.inRange
  have parts := instant.milliseconds_eq
  rw [dayLength] at inDay parts
  rw [limit] at within
  have dayInRange : Timestamp.dayInRange instant.date.toDay = true := by
    rw [Timestamp.dayInRange, toDay_date, ofMilliseconds?, dif_pos]
    · rfl
    · rw [limit, dayLength]
      omega
  have readDay := Timestamp.readDay?_date instant.date.year.natAbs instant.date (by omega)
    (by omega) instant.exists_date dayInRange
  have readTime := Timestamp.readTime?_padded (instant.timeOfDay / 3600000)
    (instant.timeOfDay / 60000 % 60) (instant.timeOfDay / 1000 % 60) (by omega) (by omega) (by omega)
  have zone : Timestamp.readZone? ['Z'] = some 0 := rfl
  rw [timestamp_eq, Timestamp.read?, Timestamp.split?_date_time _ _
    (instant.isDatePart_date fromZero) instant.isTimePart_clockText]
  simp only [Option.bind_eq_bind, Option.bind_some, yearText_of_nonneg fromZero, readDay]
  -- the whole seconds of the day make up the instant at the start of its second
  have total : instant.date.toDay * dayLength + Timestamp.clockTotal (instant.timeOfDay / 3600000)
      (instant.timeOfDay / 60000 % 60) (instant.timeOfDay / 1000 % 60) =
        instant.wholeSecond.milliseconds := by
    rw [toDay_date, Timestamp.clockTotal, wholeSecond, dayLength]
    dsimp only
    omega
  have wholeWithin := instant.wholeSecond.inRange
  rw [clockText, readTime, Option.bind_some, zone, Option.bind_some, Timestamp.combine?_whole, total,
    ofMilliseconds?, dif_pos wholeWithin]
  rw [total, abs_lt]
  rw [limit] at wholeWithin
  omega

end Instant

end Eligibility
