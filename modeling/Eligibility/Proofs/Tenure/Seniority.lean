import Eligibility.Proofs.Tenure.Units

/-!
# Seniority as time passes

A later reference time reaches the anniversaries that an earlier one has reached, and an earlier
admission has its anniversaries earlier.  The complete days follow, except for one step back at the
leap day of the year 0.
-/

set_option autoImplicit false

namespace Eligibility

namespace Instant

/-! ## Years -/

section Years
variable {first second third : Instant}

theorem anniversary_mono (ordered : first.milliseconds ≤ second.milliseconds) (count : ℕ) :
    first.anniversary count ≤ second.anniversary count := by
  rcases Prod.Lex.toLex_le_toLex.mp (fields_le_iff.mpr ordered) with year | ⟨year, inYear⟩
  · exact Prod.Lex.toLex_le_toLex.mpr (.inl (add_lt_add_left year _))
  · exact Prod.Lex.toLex_le_toLex.mpr (.inr ⟨congrArg (· + (count : ℤ)) year, inYear⟩)

theorem completeYears_mono (admitted : first.milliseconds ≤ second.milliseconds)
    (passed : second.milliseconds ≤ third.milliseconds) :
    second.completeYears first ≤ third.completeYears first :=
  (le_completeYears_iff (admitted.trans passed) _).mpr
    (((le_completeYears_iff admitted _).mp le_rfl).trans (fields_le_iff.mpr passed))

theorem completeYears_antitone (ordered : first.milliseconds ≤ second.milliseconds)
    (admitted : second.milliseconds ≤ third.milliseconds) :
    third.completeYears second ≤ third.completeYears first :=
  (le_completeYears_iff (ordered.trans admitted) _).mpr
    ((anniversary_mono ordered _).trans ((le_completeYears_iff admitted _).mp le_rfl))

end Years

/-! ## Days -/

/-- The leap day of the year 0 is counted from an instant of the first day as one day more, which
the day after it takes back when its last day is not complete. -/
def StepsBack (admission earlier later : Instant) : Prop :=
  admission.day = firstDay ∧ earlier.day = leapDayOfYearZero ∧
    later.day = leapDayOfYearZero + 1 ∧ later.timeOfDay < admission.timeOfDay

section Days
variable {first second third : Instant}

theorem day_le_of_le (ordered : first.milliseconds ≤ second.milliseconds) :
    first.day < second.day ∨ first.day = second.day ∧ first.timeOfDay ≤ second.timeOfDay := by
  have firstTime := first.timeOfDay_lt
  have secondTime := second.timeOfDay_lt
  rw [milliseconds_eq first, milliseconds_eq second] at ordered
  rw [dayLength] at *
  omega

theorem completeDays_mono_iff (admitted : first.milliseconds ≤ second.milliseconds)
    (passed : second.milliseconds ≤ third.milliseconds) :
    second.completeDays first ≤ third.completeDays first ↔ ¬StepsBack first second third := by
  have days := day_le_of_le passed
  have start := firstDay_eq
  have leapDay := leapDayOfYearZero_eq
  rcases day_le_of_le admitted with before | ⟨same, -⟩
  · have beforeToo : first.day < third.day := by omega
    rw [StepsBack, ← Nat.cast_le (α := ℤ), completeDays_later before, completeDays_later beforeToo]
    by_cases fromLeapDay : first.day = leapDayOfYearZero
    · rw [if_pos fromLeapDay, if_pos fromLeapDay]
      omega
    · rw [if_neg fromLeapDay, if_neg fromLeapDay]
      split_ifs <;> omega
  · rw [completeDays_sameDay same.symm, StepsBack]
    omega

theorem completeDays_antitone (ordered : first.milliseconds ≤ second.milliseconds)
    (admitted : second.milliseconds ≤ third.milliseconds) :
    third.completeDays second ≤ third.completeDays first := by
  have days := day_le_of_le ordered
  rcases day_le_of_le admitted with before | ⟨same, -⟩
  · have beforeToo : first.day < third.day := by omega
    zify
    rw [completeDays_later before, completeDays_later beforeToo]
    have start := second.firstDay_le_day
    split_ifs <;> omega
  · rw [completeDays_sameDay same.symm]
    exact Nat.zero_le _

end Days

end Instant

open Instant

namespace TenureRule

/-! ## Rules -/

section Rules
variable {candidate : Candidate} {admission first second : Instant}

/-- A threshold that is reached stays reached with more complete years. -/
theorem atLeast_of_le (years : first.completeYears admission ≤ second.completeYears admission)
    (read : candidate.readDate EmployeeField.admissionDate.key = .ok admission) (threshold : Value)
    (satisfied : thresholdVerdict .atLeast threshold (.ok first) candidate = .ok true) :
    thresholdVerdict .atLeast threshold (.ok second) candidate = .ok true := by
  obtain ⟨least, given, _, read', admitted⟩ := (thresholdVerdict_eq_ok_iff _ _).mp satisfied
  obtain rfl := Except.ok.inj (read.symm.trans read')
  rw [admits_atLeast_iff] at admitted
  exact (thresholdVerdict_eq_ok_iff _ _).mpr ⟨least, given, admission, read,
    (admits_atLeast_iff least).mpr (admitted.trans (Nat.cast_le.mpr years))⟩

/-- A threshold that is not reached was not reached with fewer complete years. -/
theorem below_of_le (years : first.completeYears admission ≤ second.completeYears admission)
    (read : candidate.readDate EmployeeField.admissionDate.key = .ok admission) (threshold : Value)
    (satisfied : thresholdVerdict .below threshold (.ok second) candidate = .ok true) :
    thresholdVerdict .below threshold (.ok first) candidate = .ok true := by
  obtain ⟨bound, given, _, read', admitted⟩ := (thresholdVerdict_eq_ok_iff _ _).mp satisfied
  obtain rfl := Except.ok.inj (read.symm.trans read')
  rw [admits_below_iff] at admitted
  exact (thresholdVerdict_eq_ok_iff _ _).mpr ⟨bound, given, admission, read,
    (admits_below_iff bound).mpr ((Nat.cast_le.mpr years).trans_lt admitted)⟩

end Rules

/-- As time passes since the admission, a threshold of complete years that is reached stays reached,
and the complete days do not become fewer unless they step back at the leap day of the year 0.  An
earlier admission has at least as many complete years and days. -/
theorem seniority_kept_as_time_passes (admission first second : Instant)
    (admitted : admission.milliseconds ≤ first.milliseconds)
    (passed : first.milliseconds ≤ second.milliseconds) :
    (∀ (threshold : Value) (candidate : Candidate),
      candidate.readDate EmployeeField.admissionDate.key = .ok admission →
        (thresholdVerdict .atLeast threshold (.ok first) candidate = .ok true →
          thresholdVerdict .atLeast threshold (.ok second) candidate = .ok true) ∧
        (thresholdVerdict .below threshold (.ok second) candidate = .ok true →
          thresholdVerdict .below threshold (.ok first) candidate = .ok true)) ∧
    (first.completeDays admission ≤ second.completeDays admission ↔
      ¬StepsBack admission first second) ∧
    ∀ earlier : Instant, earlier.milliseconds ≤ admission.milliseconds →
      first.completeYears admission ≤ first.completeYears earlier ∧
        first.completeDays admission ≤ first.completeDays earlier := by
  have years := completeYears_mono admitted passed
  refine ⟨fun threshold candidate read =>
      ⟨atLeast_of_le years read threshold, below_of_le years read threshold⟩,
    completeDays_mono_iff admitted passed, ?_⟩
  intro earlier ordered
  exact ⟨completeYears_antitone ordered admitted, completeDays_antitone ordered admitted⟩

def firstDayNoon : Instant :=
  ⟨-8639999956800000, by decide⟩

def marchOfYearZero : Instant :=
  ⟨-62162035200000, by decide⟩

/-- From noon of the first day, a day less is counted to the day after the leap day of the year 0
than to the leap day.  Five years that are complete in 2024 are so for ever. -/
theorem day_lost_after_leap_day_of_year_zero :
    leapDayStart.completeDays firstDayNoon = 99280532 ∧
      marchOfYearZero.completeDays firstDayNoon = 99280531 ∧
      StepsBack firstDayNoon leapDayStart marchOfYearZero ∧
      thresholdVerdict .atLeast (.number (.finite 5)) (.ok january2024)
        ⟨[("data_de_admissao", .date (some january2019))]⟩ = .ok true ∧
      thresholdVerdict .atLeast (.number (.finite 5)) (.ok lastInstant)
        ⟨[("data_de_admissao", .date (some january2019))]⟩ = .ok true := by
  obtain ⟨-, days, -⟩ := seniority_kept_as_time_passes firstDayNoon leapDayStart marchOfYearZero
    (by decide) (by decide)
  obtain ⟨kept, -, -⟩ := seniority_kept_as_time_passes january2019 january2024 lastInstant
    (by decide) (by decide)
  have more : leapDayStart.completeDays firstDayNoon = 99280532 := by decide
  have fewer : marchOfYearZero.completeDays firstDayNoon = 99280531 := by decide
  have reached : thresholdVerdict .atLeast (.number (.finite 5)) (.ok january2024)
      ⟨[("data_de_admissao", .date (some january2019))]⟩ = .ok true :=
    (thresholdVerdict_eq_ok_iff _ _).mpr ⟨5, rfl, january2019, rfl,
      (admits_atLeast_iff 5).mpr (by decide)⟩
  refine ⟨more, fewer, ?_, reached, (kept _ _ rfl).1 reached⟩
  by_contra still
  have le := days.mpr still
  rw [more, fewer] at le
  exact absurd le (by decide)

end TenureRule

end Eligibility
