import Eligibility.Value

/-!
# Log entries

A logger passes the entries from its level upwards on to its sink.  The console shows an entry as
a line with its severity in front; a recorder keeps the parts of the entry.
-/

set_option autoImplicit false

namespace Eligibility

inductive Severity where
  | debug
  | info
  | warn
  | error
  deriving DecidableEq

namespace Severity

def all : List Severity :=
  [.debug, .info, .warn, .error]

def name : Severity → String
  | .debug => "debug"
  | .info => "info"
  | .warn => "warn"
  | .error => "error"

def tag : Severity → String
  | .debug => "[DEBUG] "
  | .info => "[INFO] "
  | .warn => "[WARN] "
  | .error => "[ERROR] "

def rank : Severity → Nat
  | .debug => 0
  | .info => 1
  | .warn => 2
  | .error => 3

end Severity

/-- The least severity that is let through, or nothing at all. -/
inductive LogLevel where
  | atLeast (severity : Severity)
  | silent
  deriving DecidableEq

namespace LogLevel

def standard : LogLevel :=
  .atLeast .info

def all : List LogLevel :=
  Severity.all.map .atLeast ++ [.silent]

def name : LogLevel → String
  | .atLeast severity => severity.name
  | .silent => "silent"

def ofName? (name : String) : Option LogLevel :=
  all.find? (·.name = name)

def admits (level : LogLevel) (severity : Severity) : Bool :=
  match level with
  | .atLeast least => least.rank ≤ severity.rank
  | .silent => false

end LogLevel

inductive Sink where
  | console
  | recorder
  deriving DecidableEq

structure LogEntry where
  sink : Sink
  severity : Severity
  message : String
  arguments : List Value

namespace LogEntry

def line (entry : LogEntry) : String :=
  entry.severity.tag ++ entry.message

end LogEntry

structure Logger where
  level : LogLevel
  sink : Sink
  deriving DecidableEq

namespace Logger

def console : Logger :=
  ⟨.atLeast .debug, .console⟩

/-- The entries that a call leaves in the sink: one or none. -/
def write (logger : Logger) (severity : Severity) (message : String)
    (arguments : List Value) : List LogEntry :=
  if logger.level.admits severity then
    [⟨logger.sink, severity, message, arguments⟩]
  else
    []

end Logger

end Eligibility
