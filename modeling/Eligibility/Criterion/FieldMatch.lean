import Eligibility.Candidate.Employee
import Eligibility.Text.Lowercase

/-!
# Departments and roles

A field matches a text when both are equal in lower case.  The known departments and roles are
rules of their own that show no parameters.
-/

set_option autoImplicit false

namespace Eligibility

inductive Department where
  | directorBoard
  | accounting
  | financial
  | informationTechnology
  | facilities
  | customerExperience
  deriving DecidableEq

namespace Department

def label : Department → String
  | .directorBoard => "diretoria"
  | .accounting => "contabilidade"
  | .financial => "financeiro"
  | .informationTechnology => "tecnologia"
  | .facilities => "serviços gerais"
  | .customerExperience => "relacionamento com o cliente"

def className : Department → String
  | .directorBoard => "DirectorBoard"
  | .accounting => "AccountingDepartment"
  | .financial => "FinancialDepartment"
  | .informationTechnology => "ITDepartment"
  | .facilities => "FacilitiesDepartment"
  | .customerExperience => "CustomerExperienceDepartment"

def named : List (String × Department) :=
  [("DIRECTOR_BOARD", .directorBoard), ("ACCOUNTING", .accounting), ("FINANCIAL", .financial),
    ("IT", .informationTechnology), ("FACILITIES", .facilities),
    ("CUSTOMER_EXPERIENCE", .customerExperience)]

end Department

inductive Role where
  | trainee
  deriving DecidableEq

namespace Role

def label : Role → String
  | .trainee => "estagiario"

def className : Role → String
  | .trainee => "Trainee"

def named : List (String × Role) :=
  [("TRAINEE", .trainee)]

end Role

inductive FieldMatch where
  | ofField (field expected : String)
  | ofDepartment (name : String)
  | ofKnownDepartment (department : Department)
  | ofRole (name : String)
  | ofKnownRole (role : Role)
  deriving DecidableEq

namespace FieldMatch

def field : FieldMatch → String
  | .ofField field _ => field
  | .ofDepartment _ | .ofKnownDepartment _ => EmployeeField.department.key
  | .ofRole _ | .ofKnownRole _ => EmployeeField.role.key

/-- The text that the field must equal, letter case aside. -/
def expected : FieldMatch → String
  | .ofField _ expected => expected
  | .ofDepartment name | .ofRole name => name
  | .ofKnownDepartment department => department.label
  | .ofKnownRole role => role.label

def className : FieldMatch → String
  | .ofField .. => "FieldEqualsSpecification"
  | .ofDepartment _ => "DepartmentSpecification"
  | .ofRole _ => "RoleSpecification"
  | .ofKnownDepartment department => department.className
  | .ofKnownRole role => role.className

def parameters (rule : FieldMatch) : String :=
  match rule with
  | .ofField .. | .ofDepartment _ | .ofRole _ => rule.field ++ "=\"" ++ rule.expected ++ "\""
  | .ofKnownDepartment _ | .ofKnownRole _ => ""

def judge (rule : FieldMatch) (candidate : Candidate) : Except Fault Bool := do
  let actual ← candidate.readText rule.field
  return Text.lowercase actual = Text.lowercase rule.expected

end FieldMatch

end Eligibility
