import Eligibility.Rule.Connective
import Eligibility.Value

/-!
# Faults

Everything that can go wrong, by cause.  `Fault.message` is the only place where a cause is put
into words.
-/

set_option autoImplicit false

namespace Eligibility

inductive Expectation where
  | text
  | decimal
  | positiveDecimal
  | date
  | numberOfYears
  | configurationValue
  | logLevel
  | described (words : String)
  deriving DecidableEq

def Expectation.words : Expectation → String
  | .text => "string"
  | .decimal => "decimal"
  | .positiveDecimal => "positive decimal"
  | .date => "date"
  | .numberOfYears => "number of years"
  | .configurationValue => "configuration value"
  | .logLevel => "log level"
  | .described words => words

inductive CompositionFault where
  /-- The connective joins no clauses. -/
  | childless (connective : Connective)
  /-- A rule contains itself. -/
  | circular
  /-- A builder was started twice. -/
  | alreadyStarted
  /-- A builder was used before it was started. -/
  | notStarted
  /-- A builder was used after it was finished. -/
  | alreadyBuilt
  | described (words : String)
  deriving DecidableEq

def CompositionFault.message : CompositionFault → String
  | .childless connective => connective.className ++ " has no child specifications"
  | .circular => "Specification contains itself"
  | .alreadyStarted => "Builder already has a root specification"
  | .notStarted => "Builder has no root specification; call start() first"
  | .alreadyBuilt => "Builder has already been built"
  | .described words => words

inductive Fault where
  | missingField (field : String)
  | malformedValue (field : String) (value : Value) (hasText : value.text?.isSome = true)
    (expected : Expectation)
  | composition (cause : CompositionFault)
  | unimplemented (rule operation : String)
  | invalidCandidate (errors : List (String × List String)) (message : String)
  /-- Any other failure of a rule, under one of the stable codes. -/
  | coded (code message : String)
  /-- A failure from outside, by the name of its kind. -/
  | foreign (kind message : String)
  /-- A bare text in place of a failure. -/
  | bare (text : String)

namespace Fault

/-- The stable code of a failure of a rule; what comes from outside has none. -/
def code? : Fault → Option String
  | .missingField _ => some "MISSING_FIELD"
  | .malformedValue .. => some "MALFORMED_VALUE"
  | .composition _ => some "INVALID_COMPOSITION"
  | .unimplemented .. => some "UNIMPLEMENTED_OPERATION"
  | .invalidCandidate .. => some "CANDIDATE_VALIDATION"
  | .coded code _ => some code
  | .foreign .. | .bare _ => none

def kind : Fault → String
  | .missingField _ => "MissingFieldError"
  | .malformedValue .. => "MalformedValueError"
  | .composition _ => "InvalidCompositionError"
  | .unimplemented .. => "UnimplementedOperationError"
  | .invalidCandidate .. => "CandidateValidationError"
  | .coded .. => "SpecificationError"
  | .foreign kind _ => kind
  | .bare _ => "NonError"

def message : Fault → String
  | .missingField field => "Candidate field \"" ++ field ++ "\" is missing"
  | .malformedValue field value hasText expected =>
    "Field \"" ++ field ++ "\" is not a valid " ++ expected.words ++ ": " ++ value.text?.get hasText
  | .composition cause => cause.message
  | .unimplemented rule operation => rule ++ " does not implement " ++ operation ++ "()"
  | .invalidCandidate _ message => message
  | .coded _ message => message
  | .foreign _ message => message
  | .bare text => text

/-- The kind and the message, or the kind alone when the message is empty. -/
def text (fault : Fault) : String :=
  if fault.message = "" then fault.kind else fault.kind ++ ": " ++ fault.message

def textless : Fault :=
  .foreign "TypeError" "Cannot convert object to primitive value"

/-- The fault of a value that is not what it should be.  A value without a text is not reported:
the failure to put it into words comes first. -/
def malformed (field : String) (value : Value) (expected : Expectation) : Fault :=
  if hasText : value.text?.isSome = true then
    .malformedValue field value hasText expected
  else
    textless

def of? {Kind : Type} : Except Fault Kind → Option Fault
  | .ok _ => none
  | .error fault => some fault

def isOfField : Fault → Bool
  | .missingField _ | .malformedValue .. => true
  | _ => false

section

variable {field : String} {value other : Value} {expected : Expectation}

theorem malformed_of_text (hasText : value.text?.isSome = true) :
    malformed field value expected = .malformedValue field value hasText expected :=
  dif_pos hasText

theorem malformed_of_textless (noText : value.text? = none) :
    malformed field value expected = textless :=
  dif_neg (by rw [noText]; exact Bool.false_ne_true)

theorem of?_eq_some_iff {Kind : Type} {result : Except Fault Kind} {fault : Fault} :
    of? result = some fault ↔ result = .error fault := by
  cases result <;> simp [of?]

theorem malformed_eq_iff (hasText : value.text?.isSome = true)
    (otherText : other.text?.isSome = true) :
    malformed field value expected = malformed field other expected ↔ value = other := by
  rw [malformed_of_text hasText, malformed_of_text otherText]
  simp

end

def defaultRejection : String := "Candidate validation failed"

/-- A failure as a caller sees it who expects failures only: a bare text becomes the message of
one. -/
def caught : Fault → Fault
  | .bare text => .foreign "Error" text
  | fault => fault

end Fault

end Eligibility
