import Eligibility.Candidate.Field

/-!
# Candidates

A candidate is a record seen through typed lookups: a field that is not there and a field that
cannot be read are different faults.
-/

set_option autoImplicit false

namespace Eligibility

structure Candidate where
  record : Record

namespace Candidate

/-- Whether the field is there with a value other than null. -/
def has (candidate : Candidate) (key : String) : Bool :=
  !(candidate.record.get key).isMissing

def lookup {Kind : Type} (candidate : Candidate) (key : String)
    (read : String → Value → Except Fault Kind) : Except Fault Kind :=
  let raw := candidate.record.get key
  if raw.isMissing then .error (.missingField key) else read key raw

def readText (candidate : Candidate) (key : String) : Except Fault String :=
  candidate.lookup key Field.readText

def readDecimal (candidate : Candidate) (key : String) : Except Fault Decimal :=
  candidate.lookup key Field.readDecimal

def readDate (candidate : Candidate) (key : String) : Except Fault Instant :=
  candidate.lookup key Field.readDate

end Candidate

/-- What a rule is asked about: a plain record, or a candidate already made of one. -/
inductive Subject where
  | plain (record : Record)
  | wrapped (candidate : Candidate)

namespace Subject

/-- The candidate behind a subject; one that is wrapped already is not wrapped again. -/
def candidate : Subject → Candidate
  | .plain record => ⟨record⟩
  | .wrapped candidate => candidate

/-- Whether a plain record sets a flag to true.  A candidate shows no flags. -/
def flag (key : String) : Subject → Bool
  | .plain record =>
    match record.get key with
    | .boolean value => value
    | _ => false
  | .wrapped _ => false

end Subject

end Eligibility
