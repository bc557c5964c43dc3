import Eligibility.Criterion.Salary
import Eligibility.Criterion.Tenure
import Eligibility.Log
import Eligibility.Text.Lowercase

/-!
# Settings

Settings are read from environment variables.  A blank variable counts as unset, and a value that
cannot be read is a fault under the name of its variable.
-/

set_option autoImplicit false

namespace Eligibility

abbrev Environment := List (String × String)

structure Settings where
  environment : String
  scale : SalaryScale
  reference : Option Instant
  level : LogLevel

namespace Settings

def environmentKey : String := "NODE_ENV"

def baseSalaryKey : String := "PROFIT_SHARING_BASE_SALARY"

def referenceTimeKey : String := "PROFIT_SHARING_REFERENCE_TIME"

def logLevelKey : String := "PROFIT_SHARING_LOG_LEVEL"

def named : List (String × String) :=
  [("BASE_SALARY", baseSalaryKey), ("REFERENCE_TIME", referenceTimeKey),
    ("LOG_LEVEL", logLevelKey)]

def defaultEnvironment : String := "development"

/-- The environment in which nothing is logged unless a level is set. -/
def quietEnvironment : String := "test"

/-- The value of a variable without the blank characters at its ends, if anything is left. -/
def read? (bindings : Environment) (key : String) : Option String :=
  ((bindings.lookup key).map fun value => String.ofList (Text.trim value.toList)).filter (· ≠ "")

def underKey {Kind : Type} (key : String) : Except Fault Kind → Except Fault Kind
  | .error (.malformedValue _ value hasText _) =>
    .error (.malformedValue key value hasText .configurationValue)
  | result => result

def readScale (bindings : Environment) : Except Fault SalaryScale :=
  match read? bindings baseSalaryKey with
  | none => .ok .standard
  | some base => underKey baseSalaryKey (SalaryScale.ofValue (.text base))

def readReference (bindings : Environment) : Except Fault (Option Instant) :=
  match read? bindings referenceTimeKey with
  | none => .ok none
  | some reference =>
    underKey referenceTimeKey
      ((Field.readDate referenceTimeKey (.text reference)).map some)

/-- The level that is set, in any letter case; otherwise the one of the environment. -/
def readLevel (bindings : Environment) (environment : String) : Except Fault LogLevel :=
  match read? bindings logLevelKey with
  | none => .ok (if environment = quietEnvironment then .silent else .standard)
  | some name =>
    match LogLevel.ofName? (Text.lowercase name) with
    | some level => .ok level
    | none => .error (.malformed logLevelKey (.text (Text.lowercase name)) .logLevel)

/-- Reads the settings; of several faults the first in the order base salary, reference time and
log level is reported. -/
def load (bindings : Environment) : Except Fault Settings := do
  let environment := (read? bindings environmentKey).getD defaultEnvironment
  let scale ← readScale bindings
  let reference ← readReference bindings
  let level ← readLevel bindings environment
  return { environment, scale, reference, level }

def logger (settings : Settings) : Logger :=
  ⟨settings.level, .console⟩

end Settings

end Eligibility
