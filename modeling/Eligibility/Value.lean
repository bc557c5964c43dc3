import Eligibility.Calendar.Text
import Eligibility.Double.Shortest

/-!
# Raw values

A record holds values of any kind; only their readers decide what they are good for.
-/

set_option autoImplicit false

namespace Eligibility

/-- A value as a data source supplies it.  A date is `none` when it names no instant. -/
inductive Value where
  | null
  | absent
  | boolean (value : Bool)
  | number (value : Double)
  | integer (value : Int)
  | decimal (value : ExtendedDecimal)
  | text (value : String)
  | date (value : Option Instant)
  | list (items : List Value)
  | record (fields : List (String × Value))

abbrev Record := List (String × Value)

namespace Value

instance : Inhabited Value := ⟨.absent⟩

def isMissing : Value → Bool
  | .null | .absent => true
  | _ => false

/-- A record that has a field of this name of its own has no text: the field stands in the place of
what makes the text. -/
def textKey : String := "toString"

mutual

def text? : Value → Option String
  | .null => some "null"
  | .absent => some "undefined"
  | .boolean value => some (if value then "true" else "false")
  | .number value => some value.text
  | .integer value => some (integerText value)
  | .decimal value => some value.text
  | .text value => some value
  | .date (some instant) => some instant.longText
  | .date none => some "Invalid Date"
  | .list items => (itemTexts? items).map (String.intercalate ",")
  | .record fields => if (fields.lookup textKey).isSome then none else some "[object Object]"

/-- The texts of the items of a list; that of a missing item is empty. -/
def itemTexts? : List Value → Option (List String)
  | [] => some []
  | .null :: rest | .absent :: rest => (itemTexts? rest).map ("" :: ·)
  | item :: rest => do return (← item.text?) :: (← itemTexts? rest)

end

theorem date_hasText (instant : Option Instant) : (date instant).text?.isSome = true := by
  cases instant with
  | none => rfl
  | some instant => rfl

end Value

def Record.get (record : Record) (key : String) : Value :=
  (record.lookup key).getD .absent

end Eligibility
