import Eligibility.Calendar.Civil
import Mathlib.Data.Prod.Lex

/-!
# Civil dates and day numbers

Every day number is that of exactly one existing date, and later days have the later dates, compared
by year, month and day.
-/

set_option autoImplicit false

namespace Eligibility

namespace Calendar

/-! ## Years -/

theorem daysBeforeYear_succ (year : ℤ) :
    daysBeforeYear (year + 1) = daysBeforeYear year + yearLength year := by
  rw [daysBeforeYear, daysBeforeYear, yearLength, isLeapYear]
  split <;> rename_i leap <;>
    simp only [Bool.and_eq_true, Bool.or_eq_true, decide_eq_true_eq, ne_eq] at leap <;> omega

/-- A number of years has 365 days each, and leap days no oftener than every fourth year. -/
theorem daysBeforeYear_add_bounds (year : ℤ) (count : ℕ) :
    daysBeforeYear year + 365 * count ≤ daysBeforeYear (year + count) ∧
      daysBeforeYear (year + count) ≤ daysBeforeYear year + 365 * count + (count + 3) / 4 := by
  rw [daysBeforeYear, daysBeforeYear]
  omega

theorem daysBeforeYear_mono {year later : ℤ} (le : year ≤ later) :
    daysBeforeYear year ≤ daysBeforeYear later := by
  obtain ⟨count, rfl⟩ := Int.le.dest le
  have bounds := daysBeforeYear_add_bounds year count
  omega

/-- The estimate from the mean length of a year is at most one year off. -/
theorem yearHolding_spec (day : ℤ) :
    daysBeforeYear (yearHolding day) ≤ day ∧ day < daysBeforeYear (yearHolding day + 1) := by
  have estimate : 146097 * (400 * day / 146097) ≤ 400 * day ∧
      400 * day < 146097 * (400 * day / 146097) + 146097 := by omega
  rw [yearHolding]
  generalize 400 * day / 146097 = year at estimate ⊢
  split
  · rename_i early
    rw [Int.sub_add_cancel]
    refine ⟨?_, early⟩
    rw [daysBeforeYear]
    omega
  · rename_i started
    split
    · rename_i late
      refine ⟨late, ?_⟩
      rw [daysBeforeYear]
      omega
    · rename_i ended
      exact ⟨not_lt.mp started, not_le.mp ended⟩

/-! ## Months -/

/-- The month that holds a day has the day, and the months before it make up for the rest. -/
theorem monthHolding_spec (lengths : List ℕ) (day : ℕ) (inside : day < lengths.foldr (· + ·) 0) :
    ∃ month inMonth, monthHolding lengths day = (month + 1, inMonth + 1) ∧
      month < lengths.length ∧ inMonth < lengths.getD month 0 ∧
      (lengths.take month).foldr (· + ·) 0 + inMonth = day := by
  induction lengths generalizing day with
  | nil => exact absurd inside (Nat.not_lt_zero day)
  | cons length rest induct =>
      rw [List.foldr_cons] at inside
      rw [monthHolding]
      by_cases first : day < length
      · rw [if_pos first]
        exact ⟨0, day, rfl, Nat.succ_pos _, first, Nat.zero_add day⟩
      · obtain ⟨month, inMonth, held, short, fits, sum⟩ := induct (day - length) (by omega)
        rw [if_neg first, held]
        refine ⟨month + 1, inMonth, rfl, Nat.succ_lt_succ short, fits, ?_⟩
        rw [List.take_succ_cons, List.foldr_cons]
        omega

theorem monthEnd_le (lengths : List ℕ) {month later : ℕ} (before : month < later) :
    (lengths.take month).foldr (· + ·) 0 + lengths.getD month 0 ≤
      (lengths.take later).foldr (· + ·) 0 := by
  induction lengths generalizing month later with
  | nil => simp
  | cons length rest induct =>
      cases later with
      | zero => exact absurd before (Nat.not_lt_zero month)
      | succ later =>
          cases month with
          | zero => simp
          | succ month =>
              have bound := induct (Nat.lt_of_succ_lt_succ before)
              rw [List.take_succ_cons, List.take_succ_cons, List.foldr_cons, List.foldr_cons,
                List.getD_cons_succ, Nat.add_assoc]
              exact Nat.add_le_add_left bound length

theorem monthLength_february (year : ℤ) :
    monthLength year 2 = if isLeapYear year then 29 else 28 :=
  rfl

theorem monthLength_of_ne_february {month : ℕ} (other : month ≠ 2) (positive : 1 ≤ month)
    (year year' : ℤ) : monthLength year month = monthLength year' month := by
  match month with
  | 1 | _ + 3 => rfl

/-- A leap day takes part in the days before the months from March on. -/
theorem daysBeforeMonth_eq (leap : Bool) (month : ℕ) :
    daysBeforeMonth leap month =
      daysBeforeMonth false month + if leap = true ∧ 2 < month then 1 else 0 := by
  cases leap with
  | false => simp
  | true =>
      match month with
      | 0 | 1 | 2 => rfl
      | month + 3 =>
          rw [daysBeforeMonth, daysBeforeMonth, if_pos ⟨rfl, Nat.le_add_left 3 month⟩]
          simp only [monthLengths, Nat.add_succ_sub_one, List.take_succ_cons, List.foldr_cons,
            if_true, Bool.false_eq_true, if_false]
          omega

theorem yearLength_eq (year : ℤ) :
    yearLength year = (monthLengths (isLeapYear year)).foldr (· + ·) 0 := by
  rw [yearLength]
  cases isLeapYear year <;> rfl

end Calendar

namespace CivilDate

open Calendar

/-! ## The date of a day -/

theorem ofDay_spec (day : ℤ) : (ofDay day).Exists ∧ (ofDay day).toDay = day := by
  obtain ⟨started, ended⟩ := yearHolding_spec (day + epoch)
  rw [daysBeforeYear_succ] at ended
  rw [ofDay]
  generalize yearHolding (day + epoch) = year at started ended ⊢
  have inside : (day + epoch - daysBeforeYear year).toNat <
      (monthLengths (isLeapYear year)).foldr (· + ·) 0 := by
    rw [← yearLength_eq]
    omega
  obtain ⟨month, inMonth, held, short, fits, sum⟩ := monthHolding_spec _ _ inside
  have twelve : (monthLengths (isLeapYear year)).length = 12 := rfl
  rw [held]
  refine ⟨⟨by dsimp only; omega, by dsimp only; omega, by dsimp only; omega, fits⟩, ?_⟩
  rw [toDay, daysBeforeMonth]
  dsimp only
  rw [Nat.add_sub_cancel]
  omega

/-! ## The order of dates -/

def fields (date : CivilDate) : ℤ ×ₗ ℕ ×ₗ ℕ :=
  toLex (date.year, toLex (date.month, date.day))

/-- A date lies before its year is over, unless it goes beyond the end of its month. -/
theorem toDay_lt_nextYear {date : CivilDate} {excess : ℕ} (month : date.month ≤ 12)
    (day : date.day ≤ monthLength date.year date.month + excess) :
    date.toDay < daysBeforeYear (date.year + 1) - epoch + excess := by
  have last := monthEnd_le (monthLengths (isLeapYear date.year))
    (show date.month - 1 < 12 by omega)
  have whole : (monthLengths (isLeapYear date.year)).take 12 =
      monthLengths (isLeapYear date.year) := rfl
  rw [whole, ← yearLength_eq] at last
  rw [monthLength] at day
  rw [daysBeforeYear_succ, toDay, daysBeforeMonth]
  omega

/-- The later of two dates has the later day, but for the days by which the earlier date goes beyond
the end of its month. -/
theorem toDay_lt_add_excess {left right : CivilDate} {excess : ℕ} (leftMonth : 1 ≤ left.month)
    (leftSmall : left.month ≤ 12)
    (leftDay : left.day ≤ monthLength left.year left.month + excess) (month : 1 ≤ right.month)
    (day : 1 ≤ right.day) (earlier : left.fields < right.fields) :
    left.toDay < right.toDay + excess := by
  rcases Prod.Lex.toLex_lt_toLex.mp earlier with year | ⟨year, inYear⟩
  · have mono := daysBeforeYear_mono (Int.add_one_le_of_lt year)
    have ends := toDay_lt_nextYear leftSmall leftDay
    rw [toDay.eq_def right]
    dsimp only at mono
    omega
  · dsimp only at year
    rw [monthLength] at leftDay
    rw [toDay, toDay, ← year]
    rcases Prod.Lex.toLex_lt_toLex.mp inYear with months | ⟨months, days⟩
    · dsimp only at months
      have ends := monthEnd_le (monthLengths (isLeapYear left.year))
        (show left.month - 1 < right.month - 1 by omega)
      rw [daysBeforeMonth, daysBeforeMonth]
      omega
    · dsimp only at months days
      rw [months]
      omega

theorem toDay_lt_toDay {left right : CivilDate} (existing : left.Exists)
    (month : 1 ≤ right.month) (day : 1 ≤ right.day) (earlier : left.fields < right.fields) :
    left.toDay < right.toDay := by
  have days : left.toDay < right.toDay + (0 : ℕ) :=
    toDay_lt_add_excess existing.1 existing.2.1 existing.2.2.2 month day earlier
  omega

theorem fields_injective {left right : CivilDate} (same : left.fields = right.fields) :
    left = right := by
  obtain ⟨year, month, day⟩ := left
  obtain ⟨year', month', day'⟩ := right
  cases same
  rfl

/-- Every date of the calendar has its like in a leap year. -/
theorem exists_inLeapYear {year : ℤ} (leap : isLeapYear year = true) {date : CivilDate}
    (existing : date.Exists) : CivilDate.Exists { date with year } := by
  obtain ⟨monthPositive, monthSmall, dayPositive, daySmall⟩ := existing
  refine ⟨monthPositive, monthSmall, dayPositive, ?_⟩
  by_cases february : date.month = 2
  · rw [february, monthLength_february] at daySmall
    dsimp only
    rw [february, monthLength_february, if_pos leap]
    split_ifs at daySmall <;> omega
  · rwa [monthLength_of_ne_february february monthPositive year date.year]

theorem exists_startOfMarch (year : ℤ) : CivilDate.Exists ⟨year, 3, 1⟩ := by
  rw [Exists, monthLength]
  cases isLeapYear year <;> simp [monthLengths]

end CivilDate

end Eligibility
