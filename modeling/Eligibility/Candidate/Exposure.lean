import Eligibility.Candidate.Source

/-!
# What the outside can do to a candidate

The outside changes the source record and keeps the dates that it is given.  A date that is read
is a copy.  A reading that fails gives away the value itself in its fault, so a date in a fault is
the one of the candidate.
-/

set_option autoImplicit false

namespace Eligibility

/-- A source and the dates that the outside was given: copies of dates that were read, and dates
in faults. -/
structure Exposure where
  source : Source
  copies : List Nat
  blamed : List Nat

inductive Handle where
  /-- The value of the source record under a name. -/
  | record (key : String)
  /-- A copy, by its place among those that were given. -/
  | copy (place : Nat)
  /-- A date in a fault, by its place among those that were given. -/
  | blamed (place : Nat)

inductive Change where
  /-- Sets a field of the source record to a new value. -/
  | set (key : String) (value : Value)
  /-- Sets a field of the source record to a value that is there already. -/
  | share (key : String) (handle : Handle)
  /-- Erases a field of the source record. -/
  | erase (key : String)
  /-- Moves a date in place. -/
  | move (handle : Handle) (instant : Option Instant)
  /-- Reads a date of the candidate and keeps it. -/
  | keepDate (key : String)
  /-- Keeps the date in the fault of reading a date of the candidate as something else. -/
  | keepBlamed (key : String)

namespace Exposure

def ofSource (source : Source) : Exposure :=
  ⟨source, [], []⟩

def candidate (exposure : Exposure) : Candidate :=
  exposure.source.candidate

def field? (exposure : Exposure) : Handle → Option SourceField
  | .record key => exposure.source.record.lookup key
  | .copy place => exposure.copies[place]?.map .cell
  | .blamed place => exposure.blamed[place]?.map .cell

def giveCopy (exposure : Exposure) (instant : Instant) : Exposure :=
  { exposure with
    source := { exposure.source with cells := exposure.source.cells.push (some instant) }
    copies := exposure.copies ++ [exposure.source.cells.size] }

def giveBlamed (exposure : Exposure) (key : String) : Exposure :=
  match exposure.source.wrapped.lookup key with
  | some (.cell index) => { exposure with blamed := exposure.blamed ++ [index] }
  | _ => exposure

def apply (exposure : Exposure) : Change → Exposure
  | .set key value => { exposure with source := exposure.source.set key value }
  | .share key handle =>
    { exposure with
      source := exposure.source.put key ((exposure.field? handle).getD (.value .absent)) }
  | .erase key => { exposure with source := exposure.source.erase key }
  | .move handle instant =>
    match exposure.field? handle with
    | some (.cell index) => { exposure with source := exposure.source.moveCell index instant }
    | _ => exposure
  | .keepDate key =>
    match exposure.candidate.readDate key with
    | .ok instant => exposure.giveCopy instant
    | .error _ => exposure.giveBlamed key
  | .keepBlamed key => exposure.giveBlamed key

def run (exposure : Exposure) (changes : List Change) : Exposure :=
  changes.foldl apply exposure

end Exposure

end Eligibility
