import Eligibility.Criterion.FieldMatch
import Eligibility.Criterion.Salary
import Eligibility.Criterion.Tenure

/-!
# Criteria

A criterion is a rule without parts.  All but one kind answer from the subject alone; a script
answers from the number of times it was asked before.
-/

set_option autoImplicit false

namespace Eligibility

inductive Outcome where
  | verdict (value : Bool)
  | flag (key : String)
  | failure (fault : Fault)

/-- A named rule that goes through a list of outcomes and stays at the last one. -/
structure Script where
  name : String
  outcomes : List Outcome

inductive Criterion where
  | field (rule : FieldMatch)
  | salary (rule : SalaryRule)
  | tenure (rule : TenureRule)
  | flagged (key : String)
  | unfinished
  | scripted (script : Script)

namespace Outcome

def judge (subject : Subject) : Outcome → Except Fault Bool
  | .verdict value => .ok value
  | .flag key => .ok (subject.flag key)
  | .failure fault => .error fault

end Outcome

namespace Script

/-- The outcome after a number of calls; a script without outcomes refuses. -/
def outcomeAfter (script : Script) (calls : Nat) : Outcome :=
  (script.outcomes[calls]?).getD (script.outcomes.getLast?.getD (.verdict false))

end Script

namespace Criterion

def className : Criterion → String
  | .field rule => rule.className
  | .salary rule => rule.className
  | .tenure rule => rule.className
  | .flagged _ => "FlagSet"
  | .unfinished => "Incomplete"
  | .scripted _ => "PredicateSpecification"

def parameters : Criterion → String
  | .field rule => rule.parameters
  | .salary rule => rule.parameters
  | .tenure rule => rule.parameters
  | .flagged key => key
  | .unfinished => ""
  | .scripted script => script.name

def text (criterion : Criterion) : String :=
  criterion.className ++ "(" ++ criterion.parameters ++ ")"

/-- The verdict on a subject, after the criterion was asked `calls` times. -/
def judge (criterion : Criterion) (subject : Subject) (calls : Nat) : Except Fault Bool :=
  match criterion with
  | .field rule => rule.judge subject.candidate
  | .salary rule => rule.judge subject.candidate
  | .tenure rule => rule.judge subject.candidate
  | .flagged key => .ok (subject.flag key)
  | .unfinished => .error (.unimplemented criterion.className "isSatisfiedBy")
  | .scripted script => (script.outcomeAfter calls).judge subject

def properties : Criterion → List (String × Value)
  | .field rule => [("field", .text rule.field), ("expected", .text rule.expected)]
  | .salary rule =>
    let bound : List (String × Value) :=
      match rule.bound with
      | .above threshold | .below threshold => [("threshold", .decimal (.finite threshold))]
      | .within first second =>
        [("first", .decimal (.finite first)), ("second", .decimal (.finite second))]
    bound ++ [("base", .decimal (.finite rule.scale.base))]
  | .tenure rule =>
    let bound : List (String × Value) :=
      match rule.bound with
      | .below years | .atLeast years => [("threshold", .number years)]
      | .betweenDays initial final =>
        [("initialDays", .number initial), ("finalDays", .number final)]
    bound ++ [("referenceTime", .date (some rule.reference))]
  | .flagged _ | .unfinished | .scripted _ => []

end Criterion

end Eligibility
