import Eligibility.Candidate.Basic

/-!
# Candidates and their source records

Wrapping a record copies its fields, not the dates in them: a date is a cell that the record and
the candidate share.  Fields that are set or erased later are not seen by the candidate; a date
that is moved in place is, for as long as the candidate holds its cell.  Dates handed out are
copies.
-/

set_option autoImplicit false

namespace Eligibility

/-- A field of a source record: a value of its own, or a date in a shared cell. -/
inductive SourceField where
  | value (value : Value)
  | cell (index : Nat)

/-- A source record, the candidate made of it, and the date cells that they share. -/
structure Source where
  cells : Array (Option Instant)
  record : List (String × SourceField)
  wrapped : List (String × SourceField)

namespace Source

/-- A field for a value; a date gets a cell of its own. -/
def store (cells : Array (Option Instant)) : Value → Array (Option Instant) × SourceField
  | .date instant => (cells.push instant, .cell cells.size)
  | value => (cells, .value value)

def storeAll (cells : Array (Option Instant)) :
    Record → Array (Option Instant) × List (String × SourceField)
  | [] => (cells, [])
  | (key, value) :: rest =>
    let stored := store cells value
    let others := storeAll stored.1 rest
    (others.1, (key, stored.2) :: others.2)

/-- Wraps a subject.  A candidate that is wrapped already keeps its fields to itself. -/
def ofSubject : Subject → Source
  | .plain record =>
    let stored := storeAll #[] record
    ⟨stored.1, stored.2, stored.2⟩
  | .wrapped candidate =>
    let stored := storeAll #[] candidate.record
    ⟨stored.1, [], stored.2⟩

def valueOf (source : Source) : SourceField → Value
  | .value value => value
  | .cell index => .date ((source.cells[index]?).getD none)

def candidate (source : Source) : Candidate :=
  ⟨source.wrapped.map fun field => (field.1, source.valueOf field.2)⟩

def set (source : Source) (key : String) (value : Value) : Source :=
  let stored := store source.cells value
  { source with
    cells := stored.1
    record := (key, stored.2) :: source.record.filter (·.1 ≠ key) }

def erase (source : Source) (key : String) : Source :=
  { source with record := source.record.filter (·.1 ≠ key) }

def put (source : Source) (key : String) (field : SourceField) : Source :=
  { source with record := (key, field) :: source.record.filter (·.1 ≠ key) }

def moveCell (source : Source) (index : Nat) (instant : Option Instant) : Source :=
  { source with cells := source.cells.setIfInBounds index instant }

end Source

end Eligibility
