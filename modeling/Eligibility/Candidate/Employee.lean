import Eligibility.Candidate.Basic

/-!
# Employee records

The four fields that the rules of profit sharing read, and their check at the boundary.
-/

set_option autoImplicit false

namespace Eligibility

inductive EmployeeField where
  | department
  | role
  | grossSalary
  | admissionDate
  deriving DecidableEq

namespace EmployeeField

def key : EmployeeField → String
  | .department => "area"
  | .role => "cargo"
  | .grossSalary => "salario_bruto"
  | .admissionDate => "data_de_admissao"

def all : List EmployeeField :=
  [.department, .role, .grossSalary, .admissionDate]

def named : List (String × EmployeeField) :=
  [("AREA", .department), ("CARGO", .role), ("SALARIO_BRUTO", .grossSalary),
    ("DATA_DE_ADMISSAO", .admissionDate)]

def fault? (candidate : Candidate) (field : EmployeeField) : Option Fault :=
  match field with
  | .department | .role => Fault.of? (candidate.readText field.key)
  | .grossSalary => Fault.of? (candidate.readDecimal field.key)
  | .admissionDate => Fault.of? (candidate.readDate field.key)

end EmployeeField

namespace Employee

def messages (candidate : Candidate) : List (String × List String) :=
  EmployeeField.all.filterMap fun field =>
    (field.fault? candidate).map fun fault => (field.key, [fault.message])

/-- The first fault of reading a field that is not about what the field holds. -/
def raised? (candidate : Candidate) : Option Fault :=
  EmployeeField.all.findSome? fun field =>
    (field.fault? candidate).filter fun fault => !fault.isOfField

/-- The messages, unless the check ends before it comes to them. -/
def validate (candidate : Candidate) : Except Fault (List (String × List String)) :=
  match raised? candidate with
  | some fault => .error fault
  | none => .ok (messages candidate)

def rejection (errors : List (String × List String)) : String :=
  "Employee record has invalid fields: " ++ String.intercalate ", " (errors.map Prod.fst)

def parse (candidate : Candidate) : Except Fault Candidate := do
  let errors ← validate candidate
  if errors.isEmpty then
    return candidate
  else
    throw (.invalidCandidate errors (rejection errors))

end Employee

end Eligibility
