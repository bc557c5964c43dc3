import Eligibility.Log
import Eligibility.Rule.Visitor

/-!
# Evaluations

An evaluation asks a rule for its verdict and, when it is not satisfied, for its remainder, and
reports the clauses that failed.  The policy says whether a fault ends the evaluation or is
reported with a verdict in its place.  Every evaluation writes one entry to the log.
-/

set_option autoImplicit false

namespace Eligibility

structure Policy where
  throwOnError : Bool
  defaultOnError : Bool
  logger : Logger

structure Failure (Label Criterion : Type) where
  rule : Rule Label Criterion
  reason : String

structure Report (Label Criterion : Type) where
  satisfied : Bool
  remainder : Option (Rule.Remainder Label Criterion)
  failures : List (Failure Label Criterion)
  fault : Option Fault

/-- A result or a fault, and what was logged on the way. -/
structure Logged (Result : Type) where
  entries : List LogEntry
  result : Except Fault Result

namespace Rule

variable {Label Criterion State : Type}

namespace Remainder

/-- The clauses of a conjunction that remains, and any other rule by itself. -/
def clauses : Remainder Label Criterion → List (Rule Label Criterion)
  | .existing (.compound _ .conjunction children) => children
  | .existing rule => [rule]
  | .narrowed clauses => clauses

def toText (leafText : Criterion → String) : Remainder Label Criterion → String
  | .existing rule => rule.toText leafText
  | .narrowed clauses =>
    let visitor : Visitor Label Criterion Rendered := describer leafText
    (visitor.compound .conjunction (acceptAll visitor clauses)).text

end Remainder

def failures (leafText : Criterion → String) :
    Option (Remainder Label Criterion) → List (Failure Label Criterion)
  | none => []
  | some remainder => remainder.clauses.map fun clause => ⟨clause, clause.toText leafText⟩

/-- The verdict, and the remainder when it is not satisfied. -/
def examine (answer : Label → Criterion → Trial State Bool) (rule : Rule Label Criterion) :
    Trial State (Bool × Option (Remainder Label Criterion)) := do
  let satisfied ← rule.judge answer
  if satisfied then
    return (true, none)
  else
    return (false, ← rule.remainder answer)

def faultContext (fault : Fault) : Value :=
  match fault.code? with
  | some code => .record [("code", .text code)]
  | none => .record [("name", .text fault.kind)]

def booleanText (value : Bool) : String :=
  if value then "true" else "false"

def reportVerdict (leafText : Criterion → String) (policy : Policy) (rule : Rule Label Criterion)
    (satisfied : Bool) (remainder : Option (Remainder Label Criterion)) :
    Logged (Report Label Criterion) where
  entries := policy.logger.write .debug
    ("Evaluated " ++ rule.toText leafText ++ ": " ++
      if satisfied then "satisfied" else "not satisfied")
    [.record [("remainder", (remainder.map (·.toText leafText)).elim .null .text)]]
  result := .ok
    { satisfied, remainder, failures := failures leafText remainder, fault := none }

def reportFault (leafText : Criterion → String) (policy : Policy) (rule : Rule Label Criterion)
    (fault : Fault) : Logged (Report Label Criterion) :=
  let subject := "Evaluation of " ++ rule.toText leafText ++ " failed"
  if policy.throwOnError then
    { entries := policy.logger.write .error (subject ++ ": " ++ fault.message)
        [faultContext fault]
      result := .error fault }
  else
    { entries := policy.logger.write .warn
        (subject ++ ", reporting " ++ booleanText policy.defaultOnError ++ ": " ++ fault.message)
        [faultContext fault]
      result := .ok
        { satisfied := policy.defaultOnError
          remainder := if policy.defaultOnError then none else some (.existing rule)
          failures := if policy.defaultOnError then [] else [⟨rule, fault.message⟩]
          fault := some fault } }

def evaluate (leafText : Criterion → String) (answer : Label → Criterion → Trial State Bool)
    (policy : Policy) (rule : Rule Label Criterion) :
    StateM State (Logged (Report Label Criterion)) := do
  match ← (rule.examine answer).run with
  | .ok (satisfied, remainder) => return reportVerdict leafText policy rule satisfied remainder
  | .error fault => return reportFault leafText policy rule fault.caught

/-- Evaluates a rule for one subject after the other, up to the first fault that is not reported.
The answers depend on the subject. -/
def evaluateAll {Subject : Type} (leafText : Criterion → String)
    (answer : Subject → Label → Criterion → Trial State Bool) (policy : Policy)
    (rule : Rule Label Criterion) :
    List Subject → StateM State (Logged (List (Report Label Criterion)))
  | [] => return ⟨[], .ok []⟩
  | subject :: rest => do
    let first ← rule.evaluate leafText (answer subject) policy
    match first.result with
    | .error fault => return ⟨first.entries, .error fault⟩
    | .ok report =>
      let others ← rule.evaluateAll leafText answer policy rest
      return ⟨first.entries ++ others.entries, others.result.map (report :: ·)⟩

end Rule

end Eligibility
