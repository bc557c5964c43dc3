import Eligibility.Criterion.Tenure
import Eligibility.Proofs.Basic
import Mathlib.Data.Rat.Init

/-!
# What a tenure rule answers

A rule that is made and put to a candidate gives a verdict exactly when its numbers of years are
finite, its reference time is given and the candidate's admission can be read.
-/

set_option autoImplicit false

namespace Eligibility

namespace TenureRule

theorem readYears_eq_ok_iff (name : String) (value : Value) (years : Double) :
    Tenure.readYears name value = .ok years ↔
      ∃ number, years = .finite number ∧ value = .number (.finite number) := by
  cases value with
  | number given =>
      cases given with
      | finite number => simp [Tenure.readYears, Double.isFinite, eq_comm]
      | _ => simp [Tenure.readYears, Double.isFinite]
  | _ => simp [Tenure.readYears]

theorem judge_eq_ok_iff (rule : TenureRule) (candidate : Candidate) (verdict : Bool) :
    rule.judge candidate = .ok verdict ↔
      ∃ admission, candidate.readDate EmployeeField.admissionDate.key = .ok admission ∧
        rule.admits admission = verdict := by
  rw [judge, bind_eq_ok_iff]
  simp [pure, Except.pure]

theorem ofThreshold_eq_ok_iff (bound : Double → TenureBound) (threshold : Value)
    (reference : Except Fault Instant) (rule : TenureRule) :
    ofThreshold bound threshold reference = .ok rule ↔
      ∃ years : ℚ, threshold = .number (.finite years) ∧
        ∃ read, reference = .ok read ∧ rule = ⟨bound (.finite years), read⟩ := by
  simp only [ofThreshold, bind_eq_ok_iff, readYears_eq_ok_iff, pure, Except.pure, Except.ok.injEq]
  constructor
  · rintro ⟨read, given, _, ⟨years, rfl, same⟩, rfl⟩
    exact ⟨years, same, read, given, rfl⟩
  · rintro ⟨years, same, read, given, rfl⟩
    exact ⟨read, given, _, ⟨years, rfl, same⟩, rfl⟩

theorem ofRange_eq_ok_iff (initial final : Value) (reference : Except Fault Instant)
    (rule : TenureRule) : ofRange initial final reference = .ok rule ↔
      ∃ lower upper : ℚ, initial = .number (.finite lower) ∧ final = .number (.finite upper) ∧
        ∃ read, reference = .ok read ∧
          rule = ⟨.betweenDays ((Double.finite lower).scale Tenure.daysPerYear)
            ((Double.finite upper).scale Tenure.daysPerYear), read⟩ := by
  simp only [ofRange, bind_eq_ok_iff, readYears_eq_ok_iff, pure, Except.pure, Except.ok.injEq]
  constructor
  · rintro ⟨read, given, _, ⟨lower, rfl, same⟩, _, ⟨upper, rfl, same'⟩, rfl⟩
    exact ⟨lower, upper, same, same', read, given, rfl⟩
  · rintro ⟨lower, upper, same, same', read, given, rfl⟩
    exact ⟨read, given, _, ⟨lower, rfl, same⟩, _, ⟨upper, rfl, same'⟩, rfl⟩

def thresholdVerdict (bound : Double → TenureBound) (threshold : Value)
    (reference : Except Fault Instant) (candidate : Candidate) : Except Fault Bool := do
  let rule ← ofThreshold bound threshold reference
  rule.judge candidate

def rangeVerdict (initial final : Value) (reference : Except Fault Instant)
    (candidate : Candidate) : Except Fault Bool := do
  let rule ← ofRange initial final reference
  rule.judge candidate

section Verdicts
variable {candidate : Candidate} {reference : Instant} {verdict : Bool}

theorem thresholdVerdict_eq_ok_iff (bound : Double → TenureBound) (threshold : Value) :
    thresholdVerdict bound threshold (.ok reference) candidate = .ok verdict ↔
      ∃ years : ℚ, threshold = .number (.finite years) ∧
        ∃ admission, candidate.readDate EmployeeField.admissionDate.key = .ok admission ∧
          admits ⟨bound (.finite years), reference⟩ admission = verdict := by
  simp only [thresholdVerdict, bind_eq_ok_iff, ofThreshold_eq_ok_iff, judge_eq_ok_iff]
  constructor
  · rintro ⟨_, ⟨years, given, _, ⟨⟩, rfl⟩, judged⟩
    exact ⟨years, given, judged⟩
  · rintro ⟨years, given, judged⟩
    exact ⟨_, ⟨years, given, _, rfl, rfl⟩, judged⟩

theorem rangeVerdict_eq_ok_iff (initial final : Value) :
    rangeVerdict initial final (.ok reference) candidate = .ok verdict ↔
      ∃ lower upper : ℚ, initial = .number (.finite lower) ∧ final = .number (.finite upper) ∧
        ∃ admission, candidate.readDate EmployeeField.admissionDate.key = .ok admission ∧
          admits ⟨.betweenDays ((Double.finite lower).scale Tenure.daysPerYear)
            ((Double.finite upper).scale Tenure.daysPerYear), reference⟩ admission = verdict := by
  simp only [rangeVerdict, bind_eq_ok_iff, ofRange_eq_ok_iff, judge_eq_ok_iff]
  constructor
  · rintro ⟨_, ⟨lower, upper, given, given', _, ⟨⟩, rfl⟩, judged⟩
    exact ⟨lower, upper, given, given', judged⟩
  · rintro ⟨lower, upper, given, given', judged⟩
    exact ⟨_, ⟨lower, upper, given, given', _, rfl, rfl⟩, judged⟩

end Verdicts

end TenureRule

end Eligibility
