import Eligibility.Calendar.Elapsed
import Eligibility.Candidate.Employee

/-!
# Tenure

Rules over the time between the admission and a reference time that is fixed when the rule is
made.  Two rules count complete years; the third counts complete days against years of
`Tenure.daysPerYear` days, so the two counts disagree around leap days.
-/

set_option autoImplicit false

namespace Eligibility

namespace Tenure

def daysPerYear : Nat := 365

/-- The reference time that a value names, or the time of the clock when it is absent. -/
def freeze (clock : Instant) (reference : Value) : Except Fault Instant :=
  match reference with
  | .absent => .ok clock
  | reference => Field.readDate "referenceTime" reference

def readYears (name : String) (value : Value) : Except Fault Double :=
  match value with
  | .number years =>
    if years.isFinite then .ok years else .error (.malformed name value .numberOfYears)
  | _ => .error (.malformed name value .numberOfYears)

end Tenure

inductive TenureBound where
  | below (years : Double)
  | atLeast (years : Double)
  | betweenDays (initial final : Double)

structure TenureRule where
  bound : TenureBound
  reference : Instant

namespace TenureRule

def className (rule : TenureRule) : String :=
  match rule.bound with
  | .below _ => "AdmissionTimeInYearsLessThan"
  | .atLeast _ => "AdmissionTimeInYearsGreaterThan"
  | .betweenDays .. => "AdmissionTimeInYearsBetween"

def parameters (rule : TenureRule) : String :=
  let bound :=
    match rule.bound with
    | .below years | .atLeast years => "threshold=" ++ years.text
    | .betweenDays initial final =>
      "initialDays=" ++ initial.text ++ ", finalDays=" ++ final.text
  bound ++ ", referenceTime=" ++ String.ofList rule.reference.timestamp

def admits (rule : TenureRule) (admission : Instant) : Bool :=
  match rule.bound with
  | .below years => years.isAbove (rule.reference.completeYears admission)
  | .atLeast years => years.isAtMost (rule.reference.completeYears admission)
  | .betweenDays initial final =>
    let days : Nat := rule.reference.completeDays admission
    initial.isBelow days && final.isAbove days

def judge (rule : TenureRule) (candidate : Candidate) : Except Fault Bool := do
  let admission ← candidate.readDate EmployeeField.admissionDate.key
  return rule.admits admission

def ofThreshold (bound : Double → TenureBound) (threshold : Value)
    (reference : Except Fault Instant) : Except Fault TenureRule := do
  let reference ← reference
  let years ← Tenure.readYears "threshold" threshold
  return ⟨bound years, reference⟩

/-- A rule with a range of years, counted in days; the reference time is checked first. -/
def ofRange (initial final : Value) (reference : Except Fault Instant) :
    Except Fault TenureRule := do
  let reference ← reference
  let initial ← Tenure.readYears "initial" initial
  let final ← Tenure.readYears "final" final
  return ⟨.betweenDays (initial.scale Tenure.daysPerYear) (final.scale Tenure.daysPerYear),
    reference⟩

end TenureRule

end Eligibility
