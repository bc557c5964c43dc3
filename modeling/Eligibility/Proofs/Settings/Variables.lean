import Eligibility.Proofs.Decimal.Value
import Eligibility.Proofs.Text.LetterCase
import Eligibility.Settings

/-!
# The variables of the settings

A variable is set to what is left of its value without the blank characters around it, and unset
when nothing is left.  Each of the three variables that the rules read comes with the texts that it
may be set to and with the fault that any other text is.
-/

set_option autoImplicit false

namespace Eligibility

namespace Settings

/-! ## Set and unset -/

/-- The variable is missing, or its value is blank. -/
def IsUnset (bindings : Environment) (key : String) : Prop :=
  ∀ value, bindings.lookup key = some value → Text.IsBlankText value.toList

/-- The value of the variable is a text that is trimmed and not empty, between blank characters. -/
def Holds (bindings : Environment) (key text : String) : Prop :=
  ∃ value, bindings.lookup key = some value ∧ text ≠ "" ∧ Text.IsTrimmed text.toList ∧
    ∃ front back, Text.IsBlankText front ∧ Text.IsBlankText back ∧
      value.toList = front ++ text.toList ++ back

theorem read?_eq_none_iff (bindings : Environment) (key : String) :
    read? bindings key = none ↔ IsUnset bindings key := by
  rw [read?, IsUnset]
  cases bindings.lookup key with
  | none => simp
  | some value => simp [Option.filter, Text.trim_eq_nil_iff]

theorem read?_eq_some_iff (bindings : Environment) (key text : String) :
    read? bindings key = some text ↔ Holds bindings key text := by
  simp only [read?, Holds, ← Text.trim_eq_iff]
  cases bindings.lookup key with
  | none => simp
  | some value =>
      have named : String.ofList (Text.trim value.toList) = text ↔
          Text.trim value.toList = text.toList := by
        rw [← String.toList_inj, String.toList_ofList]
      simp only [Option.map_some, Option.filter_eq_some_iff, Option.some.injEq, decide_eq_true_eq,
        exists_eq_left', named, and_comm]

end Settings

/-! ## Settings -/

/-- A variable that the rules read, for a value of some kind. -/
structure Setting (Kind : Type) where
  key : String
  /-- The value when the variable is unset, in the environment of a name. -/
  standard : String → Kind
  /-- The values that a text names, one at the most. -/
  Names : String → Kind → Prop
  /-- What the fault shows of a text that names no value. -/
  shown : String → String
  expected : Expectation

namespace Setting

/-- The base salary: a finite decimal greater than zero, 1045 when it is unset. -/
def baseSalary : Setting SalaryScale where
  key := Settings.baseSalaryKey
  standard _ := .standard
  Names text scale := Field.decimalOfText? text = some scale.base ∧ 0 < scale.base.value
  shown text := text
  expected := .configurationValue

/-- The reference time: an instant, none when it is unset. -/
def referenceTime : Setting (Option Instant) where
  key := Settings.referenceTimeKey
  standard _ := none
  Names text reference :=
    ∃ instant, reference = some instant ∧ Field.dateOf? (.text text) = some instant
  shown text := text
  expected := .configurationValue

/-- The log level by its name in lower case; when it is unset, silence under test and entries from
information upwards elsewhere. -/
def logLevel : Setting LogLevel where
  key := Settings.logLevelKey
  standard environment := if environment = "test" then .silent else .atLeast .info
  Names text level := level.name = Text.lowercase text
  shown := Text.lowercase
  expected := .logLevel

section
variable {Kind : Type} (setting : Setting Kind) (bindings : Environment)

def Gives (environment : String) (value : Kind) : Prop :=
  (Settings.IsUnset bindings setting.key → value = setting.standard environment) ∧
    ∀ text, Settings.Holds bindings setting.key text → setting.Names text value

def IsFine : Prop :=
  ∀ text, Settings.Holds bindings setting.key text → ∃ value, setting.Names text value

def fault (text : String) : Fault :=
  .malformedValue setting.key (.text (setting.shown text)) rfl setting.expected

/-- The variable is set to a text that names no value, and the fault says so. -/
def Rejects (fault : Fault) : Prop :=
  ∃ text, Settings.Holds bindings setting.key text ∧ (¬∃ value, setting.Names text value) ∧
    fault = setting.fault text

/-- A result that is the value of the variable, or else the fault of its text. -/
@[mk_iff]
structure IsReadAs (environment : String) (result : Except Fault Kind) : Prop where
  ok_iff : ∀ value, result = .ok value ↔ setting.Gives bindings environment value
  error_iff : ∀ fault, result = .error fault ↔ setting.Rejects bindings fault

variable {setting bindings} {environment : String} {result : Except Fault Kind}

theorem isFine_iff : setting.IsFine bindings ↔ ∀ fault, ¬setting.Rejects bindings fault := by
  constructor
  · rintro fine fault ⟨text, held, nameless, -⟩
    exact nameless (fine text held)
  · intro unrejected text held
    by_contra nameless
    exact unrejected _ ⟨text, held, nameless, rfl⟩

theorem IsReadAs.isFine_iff (read : setting.IsReadAs bindings environment result) :
    setting.IsFine bindings ↔ ∃ value, result = .ok value := by
  rw [Setting.isFine_iff]
  simp only [← read.error_iff]
  cases result with
  | ok value => simp
  | error fault => simp

/-- It is enough to look at an unset variable and at the text of one that is set. -/
theorem isReadAs_of_cases
    (unset : Settings.read? bindings setting.key = none →
      result = .ok (setting.standard environment))
    (held : ∀ text, Settings.read? bindings setting.key = some text →
      (∃ value, result = .ok value ∧ ∀ other, setting.Names text other ↔ value = other) ∨
        (¬∃ value, setting.Names text value) ∧ result = .error (setting.fault text)) :
    setting.IsReadAs bindings environment result := by
  simp only [Gives, Rejects, isReadAs_iff, ← Settings.read?_eq_some_iff,
    ← Settings.read?_eq_none_iff]
  cases found : Settings.read? bindings setting.key with
  | none => simp [unset found, eq_comm]
  | some text =>
      obtain ⟨value, rfl, named⟩ | ⟨nameless, rfl⟩ := held text found
      · simp [named]
      · have unnamed : ∀ value, ¬setting.Names text value := not_exists.mp nameless
        simp [unnamed, eq_comm]

end

end Setting

end Eligibility
