import Eligibility.Criterion.Basic
import Eligibility.Graph.Compose

/-!
# Expressions

An expression says how to make or find a node: by the name it was given, from a criterion and its
arguments, or by composition.
-/

set_option autoImplicit false

namespace Eligibility

inductive CriterionKind where
  | fieldMatch
  | department
  | knownDepartment (department : Department)
  | role
  | knownRole (role : Role)
  | salaryAbove
  | salaryBelow
  | salaryWithin
  | tenureBelow
  | tenureAtLeast
  | tenureBetween
  | flagged
  | unfinished
  deriving DecidableEq

/-- An argument: a value, or a salary scale that is made of its base when it is needed. -/
inductive Argument where
  | plain (value : Value)
  | scaleOf (base : Value)

inductive Operand where
  | plain (value : Value)
  | scale (made : SalaryScale)

namespace Argument

def resolve : Argument → Except Fault Operand
  | .plain value => .ok (.plain value)
  | .scaleOf base => (SalaryScale.ofValue base).map .scale

end Argument

namespace Operand

def atPosition (operands : List Operand) (position : Nat) : Operand :=
  (operands[position]?).getD (.plain .absent)

def toValue : Operand → Value
  | .plain value => value
  | .scale made => .record [("base", .decimal (.finite made.base))]

/-- The operand as a text, for a parameter that nothing else is taken for. -/
def toText (operand : Operand) : Except Fault String :=
  match operand.toValue with
  | .text text => .ok text
  | _ => .error (.foreign "TypeError" "expected.toLowerCase is not a function")

def toScale : Operand → Except Fault SalaryScale
  | .plain value => SalaryScale.ofValue value
  | .scale made => .ok made

end Operand

namespace CriterionKind

def make (clock : Instant) (operands : List Operand) (kind : CriterionKind) :
    Except Fault Criterion :=
  let operand := Operand.atPosition operands
  let value (position : Nat) : Value := (operand position).toValue
  let text (position : Nat) : Except Fault String := (operand position).toText
  let scale (position : Nat) : Except Fault SalaryScale := (operand position).toScale
  let reference (position : Nat) : Except Fault Instant := Tenure.freeze clock (value position)
  match kind with
  | .fieldMatch => do return .field (.ofField (← text 0) (← text 1))
  | .department => (text 0).map (.field ∘ .ofDepartment)
  | .knownDepartment known => .ok (.field (.ofKnownDepartment known))
  | .role => (text 0).map (.field ∘ .ofRole)
  | .knownRole known => .ok (.field (.ofKnownRole known))
  | .salaryAbove => (SalaryRule.ofThreshold .above (value 0) (scale 1)).map .salary
  | .salaryBelow => (SalaryRule.ofThreshold .below (value 0) (scale 1)).map .salary
  | .salaryWithin => (SalaryRule.ofRange (value 0) (value 1) (scale 2)).map .salary
  | .tenureBelow => (TenureRule.ofThreshold .below (value 0) (reference 1)).map .tenure
  | .tenureAtLeast => (TenureRule.ofThreshold .atLeast (value 0) (reference 1)).map .tenure
  | .tenureBetween => (TenureRule.ofRange (value 0) (value 1) (reference 2)).map .tenure
  | .flagged => (text 0).map .flagged
  | .unfinished => .ok .unfinished

def named : List (String × CriterionKind) :=
  [("FieldEqualsSpecification", .fieldMatch), ("DepartmentSpecification", .department),
    ("RoleSpecification", .role), ("SalaryGreaterThan", .salaryAbove),
    ("SalaryLessThan", .salaryBelow), ("SalaryBetween", .salaryWithin),
    ("AdmissionTimeInYearsLessThan", .tenureBelow),
    ("AdmissionTimeInYearsGreaterThan", .tenureAtLeast),
    ("AdmissionTimeInYearsBetween", .tenureBetween), ("FlagSet", .flagged),
    ("Incomplete", .unfinished)] ++
  Department.named.map (fun entry => (entry.2.className, .knownDepartment entry.2)) ++
  Role.named.map (fun entry => (entry.2.className, .knownRole entry.2))

end CriterionKind

inductive Expression where
  | register (name : String)
  | criterion (kind : CriterionKind) (arguments : List Argument)
  | scripted (script : Script)
  | constant (verdict : Bool)
  | compound (connective : Connective) (rules : List Expression)
  | exclude (left right : Expression)
  | negate (operand : Expression)
  | join (connective : Connective) (receiver other : Expression)
  | joinAll (connective : Connective) (rules : List Expression)

end Eligibility
