import Eligibility.Proofs.Salary.Comparison
import Eligibility.Proofs.Settings.Variables

/-!
# Reading one variable

Each of the three variables is read by a parser of its own, which blames a field of its own.  All
three give the value that the variable names, or the fault of the variable.
-/

set_option autoImplicit false

namespace Eligibility

namespace SalaryScale

variable {text : String}

theorem ofValue_text (text : String) :
    ofValue (.text text) = (Field.readDecimal "base" (.text text) >>= fun base =>
      if positive : base.isPositive = true then .ok ⟨base, positive⟩
      else .error (.malformed "base" (.text text) .positiveDecimal)) :=
  rfl

theorem ofValue_text_of_named {scale : SalaryScale}
    (named : Field.decimalOfText? text = some scale.base) : ofValue (.text text) = .ok scale := by
  have read : Field.readDecimal "base" (.text text) = .ok scale.base := by
    rw [Field.readDecimal, Field.decimalOf?, named]
  rw [ofValue_text, read]
  exact dif_pos scale.positive

theorem ofValue_text_of_nameless
    (nameless : ∀ scale : SalaryScale, Field.decimalOfText? text ≠ some scale.base) :
    ∃ expected, ofValue (.text text) =
      .error (.malformedValue "base" (.text text) rfl expected) := by
  rw [ofValue_text, Field.readDecimal, Field.decimalOf?]
  cases named : Field.decimalOfText? text with
  | none => exact ⟨.decimal, rfl⟩
  | some base => exact ⟨.positiveDecimal, dif_neg fun positive => nameless ⟨base, positive⟩ named⟩

end SalaryScale

namespace LogLevel

theorem ofName?_name (level : LogLevel) : ofName? level.name = some level := by
  cases level with
  | atLeast severity => cases severity <;> decide
  | silent => decide

theorem ofName?_eq_some_iff (text : String) (level : LogLevel) :
    ofName? text = some level ↔ level.name = text := by
  constructor
  · intro found
    rw [ofName?] at found
    simpa using List.find?_some found
  · rintro rfl
    exact ofName?_name level

theorem name_plain (level : LogLevel) :
    ∀ character ∈ level.name.toList, character ∉ Text.specialForms := by
  cases level with
  | atLeast severity => cases severity <;> simp [name, Severity.name, Text.specialForms]
  | silent => simp [name, Text.specialForms]

/-- The names of the levels are read in any letter case. -/
theorem ofName?_lowercase {first second : String}
    (same : Text.SameLetters first.toList second.toList) :
    ofName? (Text.lowercase first) = ofName? (Text.lowercase second) := by
  apply Option.ext
  intro level
  rw [ofName?_eq_some_iff, ofName?_eq_some_iff, eq_comm, Text.lowercase_eq_iff level.name_plain,
    same, ← Text.lowercase_eq_iff level.name_plain, eq_comm]

end LogLevel

namespace Settings

variable (bindings : Environment) (environment : String)

theorem readScale_isReadAs :
    Setting.baseSalary.IsReadAs bindings environment (readScale bindings) := by
  apply Setting.isReadAs_of_cases
  case unset =>
    intro (found : read? bindings baseSalaryKey = none)
    rw [readScale, found]
    rfl
  case held =>
    intro text (found : read? bindings baseSalaryKey = some text)
    simp only [readScale, found]
    by_cases named : ∃ scale, Setting.baseSalary.Names text scale
    case pos =>
      left
      obtain ⟨scale, same, positive⟩ := named
      refine ⟨scale, by rw [SalaryScale.ofValue_text_of_named same]; rfl, fun other => ?_⟩
      constructor
      · rintro ⟨otherSame, -⟩
        exact SalaryScale.ext_base (Option.some.inj (same.symm.trans otherSame))
      · rintro rfl
        exact ⟨same, positive⟩
    case neg =>
      right
      obtain ⟨expected, rejected⟩ := SalaryScale.ofValue_text_of_nameless
        fun scale same => named ⟨scale, same, scale.base_pos⟩
      exact ⟨named, by rw [rejected]; rfl⟩

theorem readReference_isReadAs :
    Setting.referenceTime.IsReadAs bindings environment (readReference bindings) := by
  apply Setting.isReadAs_of_cases
  case unset =>
    intro (found : read? bindings referenceTimeKey = none)
    rw [readReference, found]
    rfl
  case held =>
    intro text (found : read? bindings referenceTimeKey = some text)
    simp only [readReference, found, Field.readDate, Setting.referenceTime]
    cases Field.dateOf? (.text text) with
    | some instant =>
        left
        exact ⟨some instant, rfl, fun other => by simp [eq_comm]⟩
    | none =>
        right
        exact ⟨by simp, rfl⟩

theorem readLevel_isReadAs :
    Setting.logLevel.IsReadAs bindings environment (readLevel bindings environment) := by
  apply Setting.isReadAs_of_cases
  case unset =>
    intro (found : read? bindings logLevelKey = none)
    rw [readLevel, found]
    rfl
  case held =>
    intro text (found : read? bindings logLevelKey = some text)
    simp only [readLevel, found, Setting.logLevel, ← LogLevel.ofName?_eq_some_iff]
    cases LogLevel.ofName? (Text.lowercase text) with
    | some level =>
        left
        exact ⟨level, rfl, fun other => by simp⟩
    | none =>
        right
        exact ⟨by simp, rfl⟩

end Settings

end Eligibility
