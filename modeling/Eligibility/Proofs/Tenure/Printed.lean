import Eligibility.Proofs.Calendar.Timestamp
import Eligibility.Proofs.Double.Division
import Eligibility.Proofs.Double.Shortest
import Eligibility.Proofs.Tenure.Judged

/-!
# Tenure rules from their texts

The text of a rule over the tenure shows its thresholds and its reference time to the second.  A rule
that is made from what the text shows has the thresholds of the first one and the start of the second
as its reference time.
-/

set_option autoImplicit false

namespace Eligibility

namespace Double

def largest : ℚ :=
  scaledByTwo (2 ^ 53 - 1) 971

theorem hasUnit_largest : HasUnit largest 971 :=
  hasUnit_scaledByTwo_iff.mpr ⟨by norm_num, by norm_num, .inr (by norm_num)⟩

theorem overflow_pos : 0 < overflow := by
  rw [overflow_eq]
  exact zpow_two_pos 1024

/-- A year of the largest double has no finite number of days. -/
theorem overflow_le_largest : overflow ≤ nearestDouble (largest * 365) := by
  have lead : overflow = scaledByTwo (2 ^ 52) 972 := by
    have shift := zpow_two_mul_pow 972 52
    rw [overflow_eq, scaledByTwo, ← shift]
    rfl
  have isPoint : IsGridPoint overflow := by
    rw [lead]
    exact isGridPoint_scaledByTwo (hasUnit_scaledByTwo_iff.mpr
      ⟨by norm_num, by norm_num, .inr le_rfl⟩)
  have half : overflow / 2 ≤ largest := by
    have full := hasUnit_largest.full.resolve_left (by norm_num)
    rw [overflow_eq, div_eq_mul_inv, ← zpow_sub_one₀ (by norm_num)]
    exact full
  exact gridPoint_le_nearestDouble overflow_pos isPoint (by linarith [overflow_pos])

theorem ofRat_of_overflow {number : ℚ} (above : overflow ≤ nearestDouble number) :
    ofRat number = .infinite false := by
  rw [ofRat, if_pos above]

theorem ofRat_of_neg_overflow {number : ℚ} (below : nearestDouble number ≤ -overflow) :
    ofRat number = .infinite true := by
  have finite : ¬overflow ≤ nearestDouble number := by linarith [overflow_pos]
  rw [ofRat, if_neg finite, if_pos below]

/-- The quotient of a double is no further from zero. -/
theorem abs_quotient_le {days : ℚ} (isPoint : IsGridPoint days) :
    |nearestDouble (days / 365)| ≤ |days| := by
  wlog positive : 0 < days generalizing days
  · rcases (not_lt.mp positive).eq_or_lt with rfl | negative
    · simp [nearestDouble]
    · have opposite := this isPoint.neg (neg_pos.mpr negative)
      rwa [neg_div, nearestDouble_neg, abs_neg, abs_neg] at opposite
  have quotient : 0 < days / 365 := div_pos positive (by norm_num)
  have nonneg : ((0 : ℤ) : ℚ) ≤ nearestDouble (days / 365) :=
    le_nearestDouble (by norm_num) (by rw [Int.cast_zero]; exact quotient.le)
  rw [Int.cast_zero] at nonneg
  rw [abs_of_nonneg nonneg, abs_of_pos positive]
  exact nearestDouble_le_gridPoint quotient isPoint (div_le_self positive.le (by norm_num))

end Double

namespace Tenure

/-! ## Years for days -/

/-- Years that have no finite number of days. -/
def overlongYears (negative : Bool) : Double :=
  .finite (if negative then -Double.largest else Double.largest)

theorem scale_overlongYears (negative : Bool) :
    (overlongYears negative).scale daysPerYear = .infinite negative := by
  have factor : ((daysPerYear : ℕ) : ℚ) = 365 := by norm_num [daysPerYear]
  cases negative with
  | false =>
      simp only [overlongYears, Bool.false_eq_true, if_false, Double.scale, factor]
      exact Double.ofRat_of_overflow Double.overflow_le_largest
  | true =>
      simp only [overlongYears, if_true, Double.scale, factor, neg_mul]
      apply Double.ofRat_of_neg_overflow
      rw [nearestDouble_neg]
      exact neg_le_neg Double.overflow_le_largest

/-- Years that make up a number of days.  An infinity is not divided: it would be refused as a number
of years, so years stand for it that have as many days. -/
def yearsOf (days : Double) : Double :=
  match days with
  | .finite number => .ofRat (number / daysPerYear)
  | .infinite negative => overlongYears negative
  | .notANumber => .notANumber

/-- The days of a number of years give years with as many days. -/
theorem scale_yearsOf {years : ℚ} (exact : (Double.finite years).IsExact) :
    ∃ found, yearsOf ((Double.finite years).scale daysPerYear) = .finite found ∧
      (Double.finite found).scale daysPerYear = (Double.finite years).scale daysPerYear := by
  have factor : ((daysPerYear : ℕ) : ℚ) = 365 := by norm_num [daysPerYear]
  have infinite (negative : Bool)
      (beyond : (Double.finite years).scale daysPerYear = .infinite negative) :
      ∃ found, yearsOf ((Double.finite years).scale daysPerYear) = .finite found ∧
        (Double.finite found).scale daysPerYear = (Double.finite years).scale daysPerYear := by
    rw [beyond]
    exact ⟨_, rfl, scale_overlongYears negative⟩
  rcases lt_or_ge |nearestDouble (years * 365)| Double.overflow with within | beyond
  · have isPoint := isGridPoint_nearestDouble (years * 365)
    simp only [Double.scale, factor]
    rw [Double.ofRat_of_lt within, yearsOf, factor,
      Double.ofRat_of_lt ((Double.abs_quotient_le isPoint).trans_lt within)]
    refine ⟨_, rfl, ?_⟩
    rw [Double.ofRat_of_lt (by rwa [product_of_quotient exact.1]), product_of_quotient exact.1]
  · rcases le_abs.mp beyond with above | below
    · apply infinite false
      rw [Double.scale, factor, Double.ofRat_of_overflow above]
    · apply infinite true
      rw [Double.scale, factor, Double.ofRat_of_neg_overflow (le_neg.mp below)]

def shown (text : String) : Double :=
  (Double.read? text).getD .notANumber

end Tenure

namespace TenureRule

def thresholdText (rule : TenureRule) : String :=
  match rule.bound with
  | .below years | .atLeast years => "threshold=" ++ years.text
  | .betweenDays initial final =>
    "initialDays=" ++ initial.text ++ ", finalDays=" ++ final.text

theorem parameters_eq (rule : TenureRule) :
    rule.parameters = rule.thresholdText ++ ", referenceTime=" ++
      String.ofList rule.reference.timestamp := by
  obtain ⟨bound, reference⟩ := rule
  cases bound <;> rfl

/-- No range is made with an infinity for years, not even where a text shows one for days. -/
theorem infinite_years_refused (negative : Bool) (other : Value) (reference : Except Fault Instant)
    (rule : TenureRule) : ofRange (.number (.infinite negative)) other reference ≠ .ok rule ∧
      ofRange other (.number (.infinite negative)) reference ≠ .ok rule := by
  constructor
  · intro made
    obtain ⟨_, _, ⟨⟩, -⟩ := (ofRange_eq_ok_iff _ _ _ _).mp made
  · intro made
    obtain ⟨_, _, -, ⟨⟩, -⟩ := (ofRange_eq_ok_iff _ _ _ _).mp made

/-- A new rule of the same kind, made from the thresholds that the text shows and from a text of the
reference time. -/
def remade (clock : Instant) (rule : TenureRule) (reference : String) : Except Fault TenureRule :=
  let frozen := Tenure.freeze clock (.text reference)
  match rule.bound with
  | .below years => ofThreshold .below (.number (Tenure.shown years.text)) frozen
  | .atLeast years => ofThreshold .atLeast (.number (Tenure.shown years.text)) frozen
  | .betweenDays initial final =>
    ofRange (.number (Tenure.yearsOf (Tenure.shown initial.text)))
      (.number (Tenure.yearsOf (Tenure.shown final.text))) frozen

/-- Rules that can be made: from numbers of years that are doubles and any reference time. -/
inductive IsMade : TenureRule → Prop
  | below (years : Double) (exact : years.IsExact) (reference : Except Fault Instant)
      (rule : TenureRule) (made : ofThreshold .below (.number years) reference = .ok rule) :
      IsMade rule
  | atLeast (years : Double) (exact : years.IsExact) (reference : Except Fault Instant)
      (rule : TenureRule) (made : ofThreshold .atLeast (.number years) reference = .ok rule) :
      IsMade rule
  | betweenDays (initial final : Double) (initialExact : initial.IsExact)
      (finalExact : final.IsExact) (reference : Except Fault Instant) (rule : TenureRule)
      (made : ofRange (.number initial) (.number final) reference = .ok rule) : IsMade rule

theorem freeze_timestamp (clock reference : Instant) (front back : Text.Padding)
    (fromZero : 0 ≤ reference.date.year) (fourDigits : reference.date.year ≤ 9999) :
    Tenure.freeze clock (.text (String.ofList (front ++ reference.timestamp ++ back))) =
      .ok reference.wholeSecond := by
  have read : Field.dateOf? (.text (String.ofList (front ++ reference.timestamp ++ back))) =
      some reference.wholeSecond := by
    rw [Field.dateOf?, String.toList_ofList, Text.trim_padded front.2 back.2,
      Text.trim_eq_self (reference.isTrimmed_timestamp fromZero),
      reference.read?_timestamp fromZero fourDigits]
  simp only [Tenure.freeze, Field.readDate, read]

theorem shown_text {number : Double} (exact : number.IsExact) : Tenure.shown number.text = number := by
  rw [Tenure.shown, Double.read?_text exact, Option.getD_some]

theorem remade_of_isMade {rule : TenureRule} (made : rule.IsMade) (clock read : Instant)
    (text : String) (frozen : Tenure.freeze clock (.text text) = .ok read) :
    rule.remade clock text = .ok ⟨rule.bound, read⟩ := by
  cases made with
  | below years exact reference _ made =>
      obtain ⟨number, ⟨⟩, _, -, rfl⟩ := (ofThreshold_eq_ok_iff _ _ _ _).mp made
      simp only [remade, shown_text exact]
      exact (ofThreshold_eq_ok_iff _ _ _ _).mpr ⟨number, rfl, read, frozen, rfl⟩
  | atLeast years exact reference _ made =>
      obtain ⟨number, ⟨⟩, _, -, rfl⟩ := (ofThreshold_eq_ok_iff _ _ _ _).mp made
      simp only [remade, shown_text exact]
      exact (ofThreshold_eq_ok_iff _ _ _ _).mpr ⟨number, rfl, read, frozen, rfl⟩
  | betweenDays initial final initialExact finalExact reference _ made =>
      obtain ⟨lower, upper, ⟨⟩, ⟨⟩, _, -, rfl⟩ := (ofRange_eq_ok_iff _ _ _ _).mp made
      obtain ⟨lowerYears, lowerFound, lowerDays⟩ := Tenure.scale_yearsOf initialExact
      obtain ⟨upperYears, upperFound, upperDays⟩ := Tenure.scale_yearsOf finalExact
      have shownDays (years : ℚ) : Tenure.shown ((Double.finite years).scale Tenure.daysPerYear).text =
          (Double.finite years).scale Tenure.daysPerYear := shown_text (Double.isExact_ofRat _)
      simp only [remade, shownDays]
      rw [lowerFound, upperFound]
      refine (ofRange_eq_ok_iff _ _ _ _).mpr ⟨lowerYears, upperYears, rfl, rfl, read, frozen, ?_⟩
      rw [lowerDays, upperDays]

/-- The reference time that a rule over the tenure shows, in a year of four digits and with any blank
characters around it, is read as the start of its second.  A rule that is made again from its text
has this reference time and the same thresholds; if the first reference time was a whole second, it
gives the same answer about every candidate. -/
theorem remade_from_text (rule : TenureRule) (fromZero : 0 ≤ rule.reference.date.year)
    (fourDigits : rule.reference.date.year ≤ 9999) (clock : Instant) (front back : Text.Padding) :
    ∃ printed, rule.parameters = rule.thresholdText ++ ", referenceTime=" ++ String.ofList printed ∧
      (∃ read, Tenure.freeze clock (.text (String.ofList (front ++ printed ++ back))) = .ok read ∧
        read.milliseconds = rule.reference.milliseconds / 1000 * 1000) ∧
      (rule.IsMade → ∃ again,
        rule.remade clock (String.ofList (front ++ printed ++ back)) = .ok again ∧
        again.bound = rule.bound ∧
        (rule.reference.milliseconds % 1000 = 0 →
          ∀ candidate, again.judge candidate = rule.judge candidate)) := by
  have frozen := freeze_timestamp clock rule.reference front back fromZero fourDigits
  refine ⟨rule.reference.timestamp, rule.parameters_eq, ⟨_, frozen, rfl⟩, fun made => ?_⟩
  refine ⟨_, remade_of_isMade made clock _ _ frozen, rfl, fun whole candidate => ?_⟩
  rw [rule.reference.wholeSecond_of_whole whole]

def ancient : TenureRule where
  bound := .atLeast (.finite (5 / 2))
  reference := ⟨-60772248000000, by decide⟩

theorem isMade_ancient : ancient.IsMade := by
  have isPoint : nearestDouble (5 / 2) = 5 / 2 := by decide +kernel
  have within : |(5 / 2 : ℚ)| < Double.overflow := by decide +kernel
  exact .atLeast (.finite (5 / 2)) ⟨isPoint, within⟩ (.ok ancient.reference) ancient rfl

theorem ancient_remade_from_text :
    ancient.reference.timestamp = "0044-03-15T12:00:00Z".toList ∧
      ∃ again, ancient.remade ancient.reference " 0044-03-15T12:00:00Z\n" = .ok again ∧
        ∀ candidate, again.judge candidate = ancient.judge candidate := by
  have shown : ancient.reference.timestamp = "0044-03-15T12:00:00Z".toList := by decide
  obtain ⟨printed, parameters, -, made⟩ := remade_from_text ancient (by decide) (by decide)
    ancient.reference ⟨[' '], List.forall_mem_singleton.mpr rfl⟩
    ⟨['\n'], List.forall_mem_singleton.mpr rfl⟩
  obtain ⟨again, isRemade, -, same⟩ := made isMade_ancient
  rw [parameters_eq, String.append_right_inj, String.ofList_inj, shown] at parameters
  subst parameters
  exact ⟨shown, again, isRemade, same (by decide)⟩

end TenureRule

end Eligibility
