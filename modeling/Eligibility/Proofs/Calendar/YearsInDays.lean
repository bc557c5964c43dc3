import Eligibility.Proofs.Calendar.Anniversary
import Eligibility.Proofs.Calendar.Days

/-!
# Complete years in days

A complete year has at least 365 days and at most one more, and the year that is not complete is
shorter than that.  The complete days stay within these bounds except for one date before the last
instant.
-/

set_option autoImplicit false

namespace Eligibility

/-! ## Years from March on -/

namespace CivilDate

open Calendar

/-- The year of a date when years end with February. -/
def marchYear (date : CivilDate) : ℤ :=
  date.year + if 2 < date.month then 1 else 0

/-- The days before the year, counted from March on, and some that depend on month and day alone. -/
theorem toDay_eq_marchYear (date : CivilDate) :
    date.toDay = daysBeforeYear date.marchYear - epoch + daysBeforeMonth false date.month +
      date.day - 1 - if 2 < date.month then 365 else 0 := by
  rw [toDay, marchYear, daysBeforeMonth_eq]
  by_cases afterFebruary : 2 < date.month
  · simp only [afterFebruary, and_true, if_true, daysBeforeYear_succ, yearLength]
    split_ifs <;> omega
  · simp only [afterFebruary, and_false, if_false, add_zero]
    omega

theorem toDay_addYears (date : CivilDate) (count : ℕ) :
    toDay { date with year := date.year + count } = date.toDay +
      (daysBeforeYear (date.marchYear + count) - daysBeforeYear date.marchYear) := by
  obtain ⟨year, month, day⟩ := date
  have later : marchYear ⟨year + count, month, day⟩ = marchYear ⟨year, month, day⟩ + count := by
    dsimp only [marchYear]
    omega
  rw [toDay_eq_marchYear, toDay_eq_marchYear ⟨year, month, day⟩, later]
  dsimp only
  omega

theorem toDay_addYears_bounds (date : CivilDate) (count : ℕ) :
    date.toDay + 365 * count ≤ toDay { date with year := date.year + count } ∧
      toDay { date with year := date.year + count } ≤
        date.toDay + 365 * count + (count + 3) / 4 := by
  have bounds := daysBeforeYear_add_bounds date.marchYear count
  rw [toDay_addYears]
  omega

/-! ## Leap days -/

theorem isLeapYear_of_leapDay {year : ℤ} (existing : Exists ⟨year, 2, 29⟩) :
    isLeapYear year = true := by
  have inMonth : 29 ≤ monthLength year 2 := existing.2.2.2
  rw [monthLength_february] at inMonth
  by_contra common
  rw [if_neg common] at inMonth
  omega

theorem lt_toDay_addYears_of_leapDay {year : ℤ} (existing : Exists ⟨year, 2, 29⟩) {count : ℕ}
    (positive : 0 < count) :
    toDay ⟨year, 2, 29⟩ + 365 * count < toDay ⟨year + count, 2, 29⟩ := by
  obtain ⟨rest, rfl⟩ := Nat.exists_eq_add_one_of_ne_zero positive.ne'
  -- the first of the years begins before its leap day, so it has that day
  have first := daysBeforeYear_succ year
  have bounds := (daysBeforeYear_add_bounds (year + 1) rest).1
  have march : marchYear ⟨year, 2, 29⟩ = year := add_zero year
  have years : year + ((rest + 1 : ℕ) : ℤ) = year + 1 + rest := by omega
  rw [yearLength, if_pos (isLeapYear_of_leapDay existing)] at first
  rw [toDay_addYears ⟨year, 2, 29⟩, march, years]
  omega

/-- Only a leap day is missing from other years. -/
theorem exists_addYears_or {date : CivilDate} (existing : date.Exists) (count : ℕ) :
    Exists { date with year := date.year + count } ∨
      date.month = 2 ∧ date.day = 29 ∧ 0 < count := by
  obtain ⟨monthPositive, monthSmall, dayPositive, daySmall⟩ := existing
  by_cases february : date.month = 2
  · rw [february, monthLength_february] at daySmall
    by_cases short : date.day ≤ 28
    · refine .inl ⟨monthPositive, monthSmall, dayPositive, ?_⟩
      dsimp only
      rw [february, monthLength_february]
      split_ifs <;> omega
    · rcases Nat.eq_zero_or_pos count with rfl | positive
      · refine .inl ⟨monthPositive, monthSmall, dayPositive, ?_⟩
        simpa [february, monthLength_february] using daySmall
      · refine .inr ⟨february, ?_, positive⟩
        split_ifs at daySmall <;> omega
  · refine .inl ⟨monthPositive, monthSmall, dayPositive, ?_⟩
    rwa [monthLength_of_ne_february february monthPositive _ date.year]

end CivilDate

namespace Instant

/-! ## Anniversaries in days -/

/-- The date of an anniversary, which need not be one of its year. -/
def anniversaryDate (instant : Instant) (count : ℕ) : CivilDate :=
  { instant.date with year := instant.date.year + count }

theorem anniversary_eq (instant : Instant) (count : ℕ) :
    instant.anniversary count = (instant.anniversaryDate count).fieldsAt instant.timeOfDay :=
  rfl

theorem toDay_anniversaryDate_bounds (instant : Instant) (count : ℕ) :
    instant.day + 365 * count ≤ (instant.anniversaryDate count).toDay ∧
      (instant.anniversaryDate count).toDay ≤ instant.day + 365 * count + (count + 3) / 4 := by
  have bounds := instant.date.toDay_addYears_bounds count
  rwa [toDay_date] at bounds

section Span
variable {earlier later : Instant} {count : ℕ}

/-- An anniversary on a date of the calendar is reached on its day. -/
theorem toDay_le_day {date : CivilDate} {time : ℕ} (existing : date.Exists)
    (reached : date.fieldsAt time ≤ later.fields) :
    date.toDay + (if later.timeOfDay < time then 1 else 0) ≤ later.day := by
  obtain ⟨month, -, day, -⟩ := later.exists_date
  rcases CivilDate.fieldsAt_le_iff.mp reached with dates | ⟨rfl, times⟩
  · have days := CivilDate.toDay_lt_toDay existing month day dates
    rw [toDay_date] at days
    split_ifs <;> omega
  · rw [toDay_date, if_neg times.not_gt, add_zero]

/-- The years after a leap day have a day more than 365 each. -/
theorem lt_day_of_leapDay (february : earlier.date.month = 2) (leapDay : earlier.date.day = 29)
    (positive : 0 < count) (reached : earlier.anniversary count ≤ later.fields) :
    earlier.day + 365 * count < later.day := by
  have date : earlier.date = ⟨earlier.date.year, 2, 29⟩ := by rw [← february, ← leapDay]
  have existing := date ▸ earlier.exists_date
  have moved : earlier.anniversaryDate count = ⟨earlier.date.year + count, 2, 29⟩ := by
    rw [anniversaryDate, february, leapDay]
  have ahead := CivilDate.lt_toDay_addYears_of_leapDay existing positive
  rw [← date, toDay_date] at ahead
  -- without a leap day in its year the anniversary is on 1 March
  have march : 29 ≤ Calendar.monthLength (earlier.date.year + count) 2 + 1 := by
    rw [Calendar.monthLength_february]
    split_ifs <;> omega
  rw [anniversary_eq, moved] at reached
  obtain ⟨laterMonth, -, laterDay, -⟩ := later.exists_date
  rcases CivilDate.fieldsAt_le_iff.mp reached with dates | ⟨dates, -⟩
  · have days := CivilDate.toDay_lt_add_excess (show 1 ≤ 2 by decide) (show 2 ≤ 12 by decide) march
      laterMonth laterDay dates
    rw [toDay_date] at days
    omega
  · rw [dates, toDay_date] at ahead
    exact ahead

/-- The years up to an anniversary have 365 days each, without a last day that is not complete. -/
theorem years_le_days (reached : earlier.anniversary count ≤ later.fields) :
    earlier.day + 365 * count + (if later.timeOfDay < earlier.timeOfDay then 1 else 0) ≤
      later.day := by
  rcases CivilDate.exists_addYears_or earlier.exists_date count with
    existing | ⟨february, leapDay, positive⟩
  · have days := toDay_le_day existing reached
    have bounds := (toDay_anniversaryDate_bounds earlier count).1
    exact (add_le_add_left bounds _).trans days
  · have days := lt_day_of_leapDay february leapDay positive reached
    split_ifs <;> omega

/-- Before an anniversary no more days have passed than the years before it have, with a leap day
in every fourth of them. -/
theorem days_le_years (ahead : later.fields < earlier.anniversary count) :
    later.day < earlier.day + 365 * count + (count + 3) / 4 ∨
      later.date = earlier.anniversaryDate count ∧ later.timeOfDay < earlier.timeOfDay ∧
        later.day ≤ earlier.day + 365 * count + (count + 3) / 4 := by
  have bounds := (toDay_anniversaryDate_bounds earlier count).2
  have month : 1 ≤ (earlier.anniversaryDate count).month := earlier.exists_date.1
  have day : 1 ≤ (earlier.anniversaryDate count).day := earlier.exists_date.2.2.1
  rw [fields, anniversary_eq, CivilDate.fieldsAt_lt_iff] at ahead
  rcases ahead with dates | ⟨dates, times⟩
  · have days := CivilDate.toDay_lt_toDay later.exists_date month day dates
    rw [toDay_date] at days
    exact .inl (days.trans_le bounds)
  · have same : later.date = earlier.anniversaryDate count := CivilDate.fields_injective dates
    refine .inr ⟨same, times, ?_⟩
    rwa [← toDay_date, same]

/-! ## Complete years and complete days -/

theorem date_of_leapDay (onLeapDay : earlier.day = leapDayOfYearZero) :
    earlier.date = ⟨0, 2, 29⟩ := by
  rw [date, onLeapDay]
  decide

/-- The year before the year 0 has no leap day. -/
theorem pos_of_leapDay (onLeapDay : later.day = leapDayOfYearZero)
    (same : later.date = earlier.anniversaryDate (count + 1)) : 0 < count := by
  by_contra zero
  rw [date_of_leapDay onLeapDay, anniversaryDate, CivilDate.mk.injEq] at same
  obtain ⟨year, month, day⟩ := same
  have previous : earlier.date.year = -1 := by omega
  have inMonth := earlier.exists_date.2.2.2
  rw [previous, ← month, ← day] at inMonth
  exact absurd inMonth (by decide)

/-- The day that is lost after the leap day of the year 0 is the one that the years have too
much. -/
theorem lt_day_of_leapDayOfYearZero (onLeapDay : earlier.day = leapDayOfYearZero)
    (positive : 0 < count) (reached : earlier.anniversary count ≤ later.fields) :
    earlier.day + 365 * count < later.day := by
  have date := date_of_leapDay onLeapDay
  exact lt_day_of_leapDay (by rw [date]) (by rw [date]) positive reached

theorem anniversaries_around (ordered : earlier.milliseconds ≤ later.milliseconds) :
    earlier.anniversary (later.completeYears earlier) ≤ later.fields ∧
      later.fields < earlier.anniversary (later.completeYears earlier + 1) :=
  ⟨(le_completeYears_iff ordered _).mp le_rfl,
    not_le.mp fun reached => Nat.lt_irrefl _ ((le_completeYears_iff ordered _).mpr reached)⟩

theorem completeDays_later_bounds (before : earlier.day < later.day) :
    365 * later.completeYears earlier ≤ later.completeDays earlier ∧
      later.completeDays earlier ≤ 366 * later.completeYears earlier + 365 := by
  obtain ⟨reached, ahead⟩ := anniversaries_around (milliseconds_lt_of_day_lt before).le
  have count := completeDays_later before
  generalize later.completeYears earlier = years at reached ahead ⊢
  have lower := years_le_days reached
  have upper := days_le_years ahead
  by_cases fromLeapDay : earlier.day = leapDayOfYearZero
  · have lost (positive : 0 < years) := lt_day_of_leapDayOfYearZero fromLeapDay positive reached
    rw [if_pos fromLeapDay] at count
    omega
  · rw [if_neg fromLeapDay] at count
    by_cases toLeapDay : later.day = leapDayOfYearZero
    · have first := firstDay_eq
      have leapDay := leapDayOfYearZero_eq
      rw [if_pos toLeapDay] at count
      -- the day that is not complete is counted, which only a first year has no room for
      rcases upper with short | ⟨same, -, long⟩
      · split_ifs at count <;> omega
      · have positive := pos_of_leapDay toLeapDay same
        split_ifs at count <;> omega
    · rw [if_neg toLeapDay] at count
      split_ifs at count lower <;> omega

theorem day_of_limit (last : later.milliseconds = limit) : later.day = 100000000 := by
  rw [day, last]
  decide

theorem date_of_limit (last : later.milliseconds = limit) : later.date = ⟨275760, 9, 13⟩ := by
  rw [date, day_of_limit last]
  decide

/-- `later` is the last instant, and `earlier` lies on its date of the year before but later in the
day: the last day is not complete and yet counted. -/
def HasDayLeftOver (earlier later : Instant) : Prop :=
  later.milliseconds = limit ∧ earlier.date = ⟨275759, 9, 13⟩ ∧ 0 < earlier.timeOfDay

theorem hasDayLeftOver_iff (last : later.milliseconds = limit) :
    earlier.HasDayLeftOver later ↔
      later.completeYears earlier = 0 ∧ earlier.day + 366 ≤ later.day := by
  have ordered : earlier.milliseconds ≤ later.milliseconds := last ▸ earlier.inRange.2
  have lastDay := day_of_limit last
  have lastDate := date_of_limit last
  have midnight := (midnight_of_limit later last).2
  rw [HasDayLeftOver, and_iff_right last]
  constructor
  · rintro ⟨date, late⟩
    have firstDay : earlier.day = 99999634 := by
      rw [← toDay_date, date]
      decide
    refine ⟨?_, by omega⟩
    by_contra some
    have reached : earlier.anniversary 1 ≤ later.fields :=
      (le_completeYears_iff ordered 1).mp (Nat.pos_of_ne_zero some)
    have same : earlier.anniversaryDate 1 = later.date := by
      rw [anniversaryDate, date, lastDate]
      rfl
    rw [anniversary_eq, same, fields, CivilDate.fieldsAt_le_iff, midnight] at reached
    exact reached.elim (lt_irrefl _) fun both => both.2.not_gt late
  · rintro ⟨none, long⟩
    have ahead := (anniversaries_around ordered).2
    rw [none] at ahead
    rcases days_le_years ahead with short | ⟨same, late, -⟩
    · omega
    · rw [lastDate, anniversaryDate, CivilDate.mk.injEq] at same
      obtain ⟨year, month, day⟩ := same
      refine ⟨?_, by omega⟩
      rw [month, day, show (275759 : ℤ) = earlier.date.year by omega]

theorem movesOutOfRange_of_hasDayLeftOver (left : earlier.HasDayLeftOver later) :
    earlier.MovesOutOfRange later := by
  obtain ⟨last, date, late⟩ := left
  refine .inr ⟨fun onLeapDay => ?_, late, last⟩
  rw [date_of_leapDay onLeapDay] at date
  exact absurd date (by decide)

theorem completeDays_earlier_bounds (before : earlier.day < later.day) :
    365 * later.completeYears earlier ≤ earlier.completeDays later ∧
      (earlier.completeDays later ≤ 366 * later.completeYears earlier + 365 ↔
        ¬earlier.HasDayLeftOver later) := by
  have bounds := completeDays_later_bounds before
  obtain ⟨reached, ahead⟩ := anniversaries_around (milliseconds_lt_of_day_lt before).le
  have lower := years_le_days reached
  have count := completeDays_earlier before
  by_cases moved : earlier.MovesOutOfRange later
  · obtain ⟨offLeapDay, -, last⟩ := (movesOutOfRange_before_iff before).mp moved
    have upper := days_le_years ahead
    rw [if_neg offLeapDay, if_pos (.inr last)] at count
    rw [hasDayLeftOver_iff last]
    split_ifs at lower <;> omega
  · rw [iff_true_right (mt movesOutOfRange_of_hasDayLeftOver moved)]
    by_cases movedBack : later.MovesOutOfRange earlier
    · -- one day more is counted from the later instant
      obtain ⟨onLeapDay, first⟩ := (movesOutOfRange_after_iff before).mp movedBack
      have countBack := completeDays_later before
      have offLeapDay : earlier.day ≠ leapDayOfYearZero := onLeapDay ▸ before.ne
      rw [if_neg offLeapDay, if_pos (.inl onLeapDay)] at count
      rw [if_neg offLeapDay, if_pos onLeapDay, if_pos first] at countBack
      split_ifs at lower <;> omega
    · rwa [completeDays_comm_iff.mpr ⟨moved, movedBack⟩]

end Span

theorem completeYears_sameDay {left right : Instant} (same : left.day = right.day) :
    left.completeYears right = 0 := by
  wlog ordered : right.milliseconds ≤ left.milliseconds generalizing left right
  · rw [completeYears_comm, this same.symm (not_le.mp ordered).le]
  have days := years_le_days (anniversaries_around ordered).1
  omega

/-- The complete days lie between the shortest and the longest that the complete years allow, but
for one day. -/
theorem completeDays_bounds (left right : Instant) :
    365 * left.completeYears right ≤ left.completeDays right ∧
      (left.completeDays right ≤ 366 * left.completeYears right + 365 ↔
        ¬left.HasDayLeftOver right) := by
  rcases lt_trichotomy left.day right.day with before | same | after
  · rw [completeYears_comm]
    exact completeDays_earlier_bounds before
  · rw [completeYears_sameDay same, completeDays_sameDay same]
    exact ⟨le_rfl, iff_of_true (Nat.zero_le _)
      (mt movesOutOfRange_of_hasDayLeftOver (not_movesOutOfRange_sameDay same))⟩
  · obtain ⟨lower, upper⟩ := completeDays_later_bounds after
    refine ⟨lower, iff_of_true upper ?_⟩
    rintro ⟨last, -⟩
    exact ((milliseconds_lt_of_day_lt after).trans_le left.inRange.2).ne last

end Instant

end Eligibility
