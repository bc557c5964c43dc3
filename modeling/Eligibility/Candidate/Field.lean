import Eligibility.Calendar.Timestamp
import Eligibility.Decimal.Reader
import Eligibility.Fault
import Eligibility.Text.Blank

/-!
# Reading fields

A field is read as an exact decimal or as an instant.  What cannot be read is reported with the
value as it was given, not with the blank characters at its ends removed.
-/

set_option autoImplicit false

namespace Eligibility

namespace Field

/-- The finite decimal that a text names, whatever blank characters surround it. -/
def decimalOfText? (text : String) : Option Decimal :=
  (ExtendedDecimal.read? (Text.trim text.toList)).bind (·.finite?)

def decimalOf? : Value → Option Decimal
  | .decimal value => value.finite?
  | .number value => value.toDecimal.finite?
  | .text text => decimalOfText? text
  | _ => none

def dateOf? : Value → Option Instant
  | .date instant => instant
  | .text text => Timestamp.read? (Text.trim text.toList)
  | _ => none

def readDecimal (field : String) (raw : Value) : Except Fault Decimal :=
  match decimalOf? raw with
  | some value => .ok value
  | none => .error (.malformed field raw .decimal)

def readDate (field : String) (raw : Value) : Except Fault Instant :=
  match dateOf? raw with
  | some instant => .ok instant
  | none => .error (.malformed field raw .date)

def readText (field : String) : Value → Except Fault String
  | .text text => .ok text
  | raw => .error (.malformed field raw .text)

end Field

end Eligibility
