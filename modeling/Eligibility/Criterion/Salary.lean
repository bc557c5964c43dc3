import Eligibility.Candidate.Employee
import Eligibility.Decimal.Arithmetic

/-!
# Salaries

Rules over the ratio of the gross salary to a base salary.  A comparison multiplies the ratio by
the base and leaves the salary as it is, so no division is rounded.
-/

set_option autoImplicit false

namespace Eligibility

/-- The base salary that ratios are measured in. -/
structure SalaryScale where
  base : Decimal
  positive : base.isPositive = true

namespace SalaryScale

def defaultBase : Decimal where
  coefficient := 1045
  exponent := 0
  canonical := .inr (by decide)
  bounded := by decide

def standard : SalaryScale :=
  ⟨defaultBase, by decide⟩

/-- The scale of a base salary, which must be positive; the standard one when it is absent. -/
def ofValue (base : Value) : Except Fault SalaryScale :=
  match base with
  | .absent => .ok standard
  | base => do
    let value ← Field.readDecimal "base" base
    if positive : value.isPositive = true then
      .ok ⟨value, positive⟩
    else
      .error (.malformed "base" base .positiveDecimal)

def normalize (scale : SalaryScale) (salary : Decimal) : ExtendedDecimal :=
  salary.quotient scale.base

def compare? (scale : SalaryScale) (salary ratio : Decimal) : Option Ordering :=
  salary.orderTo? (ratio.product scale.base)

def compareCandidate? (scale : SalaryScale) (candidate : Candidate) (ratio : Decimal) :
    Except Fault (Option Ordering) := do
  let salary ← candidate.readDecimal EmployeeField.grossSalary.key
  return scale.compare? salary ratio

end SalaryScale

inductive SalaryBound where
  | above (threshold : Decimal)
  | below (threshold : Decimal)
  | within (first second : Decimal)

structure SalaryRule where
  bound : SalaryBound
  scale : SalaryScale

namespace SalaryRule

def className (rule : SalaryRule) : String :=
  match rule.bound with
  | .above _ => "SalaryGreaterThan"
  | .below _ => "SalaryLessThan"
  | .within .. => "SalaryBetween"

/-- The parameters in the text of the rule; the base is not among them. -/
def parameters (rule : SalaryRule) : String :=
  match rule.bound with
  | .above threshold | .below threshold => "threshold=" ++ threshold.text
  | .within first second => "first=" ++ first.text ++ ", second=" ++ second.text

/-- Whether a salary lies within the bound, both ends of a range included. -/
def admits (rule : SalaryRule) (salary : Decimal) : Bool :=
  match rule.bound with
  | .above threshold => rule.scale.compare? salary threshold = some .gt
  | .below threshold => rule.scale.compare? salary threshold = some .lt
  | .within first second =>
    (rule.scale.compare? salary first).any (·.isGE) &&
      (rule.scale.compare? salary second).any (·.isLE)

def judge (rule : SalaryRule) (candidate : Candidate) : Except Fault Bool := do
  let salary ← candidate.readDecimal EmployeeField.grossSalary.key
  return rule.admits salary

/-- A rule with one threshold, which is checked before the scale. -/
def ofThreshold (bound : Decimal → SalaryBound) (threshold : Value)
    (scale : Except Fault SalaryScale) : Except Fault SalaryRule := do
  let threshold ← Field.readDecimal "threshold" threshold
  return ⟨bound threshold, ← scale⟩

def ofRange (first second : Value) (scale : Except Fault SalaryScale) :
    Except Fault SalaryRule := do
  let first ← Field.readDecimal "first" first
  let second ← Field.readDecimal "second" second
  return ⟨.within first second, ← scale⟩

end SalaryRule

end Eligibility
