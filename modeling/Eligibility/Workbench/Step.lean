import Eligibility.Evaluation
import Eligibility.Workbench.Basic

/-!
# Steps

A step asks the workbench for one thing.  Its answer comes with the scripts that were called and
the entries that were logged, whether it succeeded or not.  Answers show rules by name, kind and
text.
-/

set_option autoImplicit false

namespace Eligibility

/-- What a builder is asked, with the rule still to be made. -/
inductive BuilderStep where
  | start (rule : Expression)
  | join (connective : Connective) (rule : Expression)
  | exclude (rule : Expression)
  | negate

/-- One request that logs nothing. -/
inductive Request where
  | bind (name : String) (rule : Expression)
  | text (rule : Expression)
  | describe (rule : Expression)
  | tree (rule : Expression)
  | countLeaves (rule : Expression)
  | judge (rule : Expression) (subject : Subject)
  | remainder (rule : Expression) (subject : Subject) (name : Option String)
  | sealRule (rule : Expression)
  | isSealed (rule : Expression)
  | children (rule : Expression)
  | properties (rule : Expression)
  | reference (rule : Expression)
  | setClock (clock : Instant)
  | newBuilder (name : String) (root : Option Expression)
  | callBuilder (name : String) (call : BuilderStep)
  | finishBuilder (builder : String) (name : Option String)

inductive Step where
  | request (request : Request)
  | evaluate (rule : Expression) (subject : Subject) (policy : Policy)
  | evaluateAll (rule : Expression) (subjects : List Subject) (policy : Policy)

/-- A rule as an answer shows it: the first name of its node, its kind and its text. -/
structure Shown where
  register : Option String
  className : String
  text : String

structure ShownReport where
  satisfied : Bool
  remainder : Option Shown
  /-- The failed clauses, with the reasons in place of their texts. -/
  failures : List Shown
  fault : Option Fault

inductive Answer where
  | done
  | chained
  | shown (rule : Shown)
  | built (rule : Shown) (isSealed : Bool)
  | text (text : String)
  | description (text : String)
  | tree (rule : Rule NodeId Criterion)
  | leafCount (count : Nat)
  | verdict (satisfied : Bool)
  | remainder (rule : Option Shown)
  | sealedBySelf (isSealed : Bool)
  | isSealed (isSealed : Bool)
  | children (rules : List Shown)
  | properties (values : List (String × Value)) (parts : List (String × Shown))
  | reference (time : Value)
  | clock (time : Instant)
  | report (report : ShownReport)
  | reports (reports : List ShownReport)

structure StepResult where
  result : Except Fault Answer
  calls : List String
  entries : List LogEntry

end Eligibility
