import Eligibility.Proofs.Basic
import Eligibility.Proofs.Settings.Reading

/-!
# Loading the settings

The settings are what the variables give, each by itself; if one of them names no value, the fault
is that of the first such variable.  Blank characters around the values do not count, and neither
does the letter case of the log level, but for what a fault shows of it.
-/

set_option autoImplicit false

namespace Eligibility

namespace Settings

/-! ## All variables -/

/-- The settings that the variables give. -/
structure Describes (bindings : Environment) (settings : Settings) : Prop where
  unnamed : IsUnset bindings environmentKey → settings.environment = "development"
  named : ∀ text, Holds bindings environmentKey text → settings.environment = text
  scale : Setting.baseSalary.Gives bindings settings.environment settings.scale
  reference : Setting.referenceTime.Gives bindings settings.environment settings.reference
  level : Setting.logLevel.Gives bindings settings.environment settings.level

/-- The fault of the first variable that names no value. -/
inductive FirstRejected (bindings : Environment) (fault : Fault) : Prop where
  | baseSalary (rejected : Setting.baseSalary.Rejects bindings fault)
  | referenceTime (salary : Setting.baseSalary.IsFine bindings)
      (rejected : Setting.referenceTime.Rejects bindings fault)
  | logLevel (salary : Setting.baseSalary.IsFine bindings)
      (reference : Setting.referenceTime.IsFine bindings)
      (rejected : Setting.logLevel.Rejects bindings fault)

section Loading
variable (bindings : Environment)

theorem environment_eq_iff (environment : String) :
    (read? bindings environmentKey).getD defaultEnvironment = environment ↔
      (IsUnset bindings environmentKey → environment = "development") ∧
        ∀ text, Holds bindings environmentKey text → environment = text := by
  simp only [← read?_eq_none_iff, ← read?_eq_some_iff]
  cases read? bindings environmentKey with
  | none => simp [defaultEnvironment, eq_comm]
  | some text => simp [eq_comm]

theorem load_eq_ok_iff (settings : Settings) :
    load bindings = .ok settings ↔ Describes bindings settings := by
  simp only [load, bind_eq_ok_iff, pure, Except.pure, Except.ok.injEq]
  constructor
  · rintro ⟨scale, scaleRead, reference, referenceRead, level, levelRead, rfl⟩
    obtain ⟨unnamed, named⟩ := (environment_eq_iff bindings _).mp rfl
    exact ⟨unnamed, named, ((readScale_isReadAs bindings _).ok_iff _).mp scaleRead,
      ((readReference_isReadAs bindings _).ok_iff _).mp referenceRead,
      ((readLevel_isReadAs bindings _).ok_iff _).mp levelRead⟩
  · intro described
    -- the level that stands for an unset one depends on the environment
    have environment := (environment_eq_iff bindings _).mpr ⟨described.unnamed, described.named⟩
    rw [environment]
    exact ⟨settings.scale, ((readScale_isReadAs bindings _).ok_iff _).mpr described.scale,
      settings.reference, ((readReference_isReadAs bindings _).ok_iff _).mpr described.reference,
      settings.level, ((readLevel_isReadAs bindings _).ok_iff _).mpr described.level, rfl⟩

theorem load_eq_error_iff (fault : Fault) :
    load bindings = .error fault ↔ FirstRejected bindings fault := by
  have scale := readScale_isReadAs bindings defaultEnvironment
  have reference := readReference_isReadAs bindings defaultEnvironment
  have level := readLevel_isReadAs bindings
    ((read? bindings environmentKey).getD defaultEnvironment)
  simp only [load, bind_eq_error_iff, exists_and_right, ← scale.isFine_iff,
    ← reference.isFine_iff, scale.error_iff, reference.error_iff, level.error_iff, pure,
    Except.pure, reduceCtorEq, and_false, exists_false, or_false]
  constructor
  · rintro (rejected | ⟨salary, rejected | ⟨reference, rejected⟩⟩)
    · exact .baseSalary rejected
    · exact .referenceTime salary rejected
    · exact .logLevel salary reference rejected
  · rintro (rejected | ⟨salary, rejected⟩ | ⟨salary, reference, rejected⟩)
    · exact .inl rejected
    · exact .inr ⟨salary, .inl rejected⟩
    · exact .inr ⟨salary, .inr ⟨reference, rejected⟩⟩

theorem load_succeeds_iff :
    (∃ settings, load bindings = .ok settings) ↔
      Setting.baseSalary.IsFine bindings ∧ Setting.referenceTime.IsFine bindings ∧
        Setting.logLevel.IsFine bindings := by
  have unfailing : (∃ settings, load bindings = .ok settings) ↔
      ∀ fault, ¬FirstRejected bindings fault := by
    simp only [← load_eq_error_iff]
    cases load bindings with
    | ok settings => simp
    | error fault => simp
  rw [unfailing]
  constructor
  · intro unrejected
    have salary : Setting.baseSalary.IsFine bindings :=
      Setting.isFine_iff.mpr fun fault rejected => unrejected fault (.baseSalary rejected)
    have reference : Setting.referenceTime.IsFine bindings :=
      Setting.isFine_iff.mpr fun fault rejected => unrejected fault (.referenceTime salary rejected)
    exact ⟨salary, reference, Setting.isFine_iff.mpr fun fault rejected =>
      unrejected fault (.logLevel salary reference rejected)⟩
  · rintro ⟨salary, reference, level⟩ fault (rejected | ⟨-, rejected⟩ | ⟨-, -, rejected⟩)
    · exact Setting.isFine_iff.mp salary fault rejected
    · exact Setting.isFine_iff.mp reference fault rejected
    · exact Setting.isFine_iff.mp level fault rejected

end Loading

/-! ## Blank characters -/

theorem load_congr {first second : Environment}
    (same : ∀ key, read? first key = read? second key) : load first = load second := by
  simp only [load, readScale, readReference, readLevel, same]

def padValue (front back : String → Text.Padding) (key value : String) : String :=
  String.ofList ((front key).val ++ value.toList ++ (back key).val)

def padded (front back : String → Text.Padding) (bindings : Environment) : Environment :=
  bindings.map fun binding => (binding.1, padValue front back binding.1 binding.2)

theorem load_padded (front back : String → Text.Padding) (bindings : Environment) :
    load (padded front back bindings) = load bindings := by
  apply load_congr
  intro key
  have inside (value : String) :
      Text.trim (padValue front back key value).toList = Text.trim value.toList := by
    rw [padValue, String.toList_ofList,
      Text.trim_padded (front key).property (back key).property]
  simp only [read?, padded, lookup_map (padValue front back), Option.map_map, Function.comp_def,
    inside]

/-! ## Letter case -/

section LetterCase
variable (bindings : Environment) {value other : String}

def withLevel (value : String) (bindings : Environment) : Environment :=
  (logLevelKey, value) :: bindings

theorem read?_withLevel_of_ne {key : String} (unequal : key ≠ logLevelKey) :
    read? (withLevel value bindings) key = read? bindings key := by
  rw [read?, read?, withLevel, List.lookup_cons, beq_false_of_ne unequal]

theorem read?_withLevel : read? (withLevel value bindings) logLevelKey =
    if Text.trim value.toList = [] then none
    else some (String.ofList (Text.trim value.toList)) := by
  rw [read?, withLevel, List.lookup_cons_self, Option.map_some, Option.filter]
  split <;> simp_all

theorem readScale_withLevel : readScale (withLevel value bindings) = readScale bindings := by
  rw [readScale, readScale, read?_withLevel_of_ne bindings (by decide)]

theorem readReference_withLevel :
    readReference (withLevel value bindings) = readReference bindings := by
  rw [readReference, readReference, read?_withLevel_of_ne bindings (by decide)]

theorem environment_withLevel :
    read? (withLevel value bindings) environmentKey = read? bindings environmentKey :=
  read?_withLevel_of_ne bindings (by decide)

/-- The level is trimmed before it is put into lower case, and neither step disturbs the other. -/
theorem readLevel_eq_of_lowercase_eq (same : Text.lowercase value = Text.lowercase other)
    (environment : String) :
    readLevel (withLevel value bindings) environment =
      readLevel (withLevel other bindings) environment := by
  have bothEmpty : Text.trim value.toList = [] ↔ Text.trim other.toList = [] := by
    rw [← Text.trim_lowercase_eq_nil_iff, same, Text.trim_lowercase_eq_nil_iff]
  have lowered : Text.lowercase (String.ofList (Text.trim value.toList)) =
      Text.lowercase (String.ofList (Text.trim other.toList)) := by
    rw [Text.lowercase_trim, same, Text.lowercase_trim]
  simp only [readLevel, read?_withLevel, bothEmpty]
  by_cases empty : Text.trim other.toList = []
  case pos => simp only [if_pos empty]
  case neg => simp only [if_neg empty, lowered]

def levelFault (value : String) : Fault :=
  Setting.logLevel.fault (String.ofList (Text.trim value.toList))

/-- Only a fault tells spellings apart, because a sigma is put into lower case by its place. -/
theorem readLevel_of_sameLetters (same : Text.SameLetters value.toList other.toList)
    (environment : String) :
    readLevel (withLevel value bindings) environment =
        readLevel (withLevel other bindings) environment ∨
      readLevel (withLevel value bindings) environment = .error (levelFault value) ∧
        readLevel (withLevel other bindings) environment = .error (levelFault other) := by
  have bothEmpty : Text.trim value.toList = [] ↔ Text.trim other.toList = [] := by
    rw [← List.map_eq_nil_iff (f := Text.lowerCharacter), same.trim, List.map_eq_nil_iff]
  have letters : Text.SameLetters (String.ofList (Text.trim value.toList)).toList
      (String.ofList (Text.trim other.toList)).toList := by
    rw [String.toList_ofList, String.toList_ofList]
    exact same.trim
  simp only [readLevel, read?_withLevel, bothEmpty]
  by_cases empty : Text.trim other.toList = []
  case pos => exact .inl (by simp only [if_pos empty])
  case neg =>
    simp only [if_neg empty, LogLevel.ofName?_lowercase letters]
    split
    · exact .inl rfl
    · exact .inr ⟨rfl, rfl⟩

theorem load_eq_of_lowercase_eq (same : Text.lowercase value = Text.lowercase other) :
    load (withLevel value bindings) = load (withLevel other bindings) := by
  simp only [load, readScale_withLevel, readReference_withLevel, environment_withLevel,
    readLevel_eq_of_lowercase_eq bindings same]

theorem load_of_sameLetters (same : Text.SameLetters value.toList other.toList) :
    load (withLevel value bindings) = load (withLevel other bindings) ∨
      load (withLevel value bindings) = .error (levelFault value) ∧
        load (withLevel other bindings) = .error (levelFault other) := by
  simp only [load, readScale_withLevel, readReference_withLevel, environment_withLevel]
  have levels := readLevel_of_sameLetters bindings same
    ((read? bindings environmentKey).getD defaultEnvironment)
  -- the level is read last, so an earlier fault is the same for both
  generalize readLevel (withLevel value bindings) _ = first at levels ⊢
  generalize readLevel (withLevel other bindings) _ = second at levels ⊢
  cases readScale bindings with
  | error fault => exact .inl rfl
  | ok scale =>
      cases readReference bindings with
      | error fault => exact .inl rfl
      | ok reference =>
          obtain rfl | ⟨rfl, rfl⟩ := levels
          · exact .inl rfl
          · exact .inr ⟨rfl, rfl⟩

end LetterCase

/-! ## The settings of an environment -/

/-- Loading gives the settings that the variables describe, and it succeeds exactly when the base
salary is unset or a finite decimal above zero, the reference time is unset or an instant, and the
log level is unset or the name of a level in any letter case.  Otherwise the fault is that of the
first variable in this order that names no value.  Blank characters around the values change
nothing, nor does a spelling of the log level that is the same in lower case.  A spelling of which
the letters are the same in lower case one by one changes no more than what the fault of the log
level shows. -/
theorem loaded_from_trimmed_variables (bindings : Environment) :
    (∀ settings, load bindings = .ok settings ↔ Describes bindings settings) ∧
    SalaryScale.standard.base.value = 1045 ∧
    ((∃ settings, load bindings = .ok settings) ↔
      Setting.baseSalary.IsFine bindings ∧ Setting.referenceTime.IsFine bindings ∧
        Setting.logLevel.IsFine bindings) ∧
    (∀ fault, load bindings = .error fault ↔ FirstRejected bindings fault) ∧
    (∀ front back, load (padded front back bindings) = load bindings) ∧
    (∀ value other, Text.lowercase value = Text.lowercase other →
      load (withLevel value bindings) = load (withLevel other bindings)) ∧
    ∀ value other : String, Text.SameLetters value.toList other.toList →
      load (withLevel value bindings) = load (withLevel other bindings) ∨
      load (withLevel value bindings) = .error (levelFault value) ∧
        load (withLevel other bindings) = .error (levelFault other) := by
  refine ⟨load_eq_ok_iff bindings, ?standard, load_succeeds_iff bindings,
    load_eq_error_iff bindings, fun front back => load_padded front back bindings,
    fun value other same => load_eq_of_lowercase_eq bindings same,
    fun value other same => load_of_sameLetters bindings same⟩
  case standard => norm_num [SalaryScale.standard, SalaryScale.defaultBase, Decimal.value]

theorem capital_level_loads_alike :
    Text.lowercase "Debug" = Text.lowercase "DEBUG" ∧
      load (withLevel "Debug" [(environmentKey, " test ")]) =
        load (withLevel "DEBUG" [(environmentKey, " test ")]) ∧
      ((load (withLevel "Debug" [(environmentKey, " test ")])).toOption.map (·.level)) =
        some (.atLeast .debug) := by
  have same : Text.lowercase "Debug" = Text.lowercase "DEBUG" := by decide +kernel
  obtain ⟨-, -, -, -, -, spelling, -⟩ :=
    loaded_from_trimmed_variables [(environmentKey, " test ")]
  exact ⟨same, spelling "Debug" "DEBUG" same, by decide +kernel⟩

/-- Letter case shows: a capital sigma at the end of a word and a small one that is no final form
are reported differently, and a small letter without a dot is no spelling of the capital letter
that stands for it. -/
theorem sigma_shown_by_place_dotless_letter_unread :
    Text.SameLetters "ΑΣ".toList "ασ".toList ∧
      (Fault.of? (load (withLevel "ΑΣ" []))).map (·.message) =
        some "Field \"PROFIT_SHARING_LOG_LEVEL\" is not a valid log level: ας" ∧
      (Fault.of? (load (withLevel "ασ" []))).map (·.message) =
        some "Field \"PROFIT_SHARING_LOG_LEVEL\" is not a valid log level: ασ" ∧
      load (withLevel "ΑΣ" []) ≠ load (withLevel "ασ" []) ∧
      (load (withLevel "INFO" [])).isOk = true ∧ (load (withLevel "ınfo" [])).isOk = false := by
  have capital : (Fault.of? (load (withLevel "ΑΣ" []))).map (·.message) =
      some "Field \"PROFIT_SHARING_LOG_LEVEL\" is not a valid log level: ας" := by decide +kernel
  have small : (Fault.of? (load (withLevel "ασ" []))).map (·.message) =
      some "Field \"PROFIT_SHARING_LOG_LEVEL\" is not a valid log level: ασ" := by decide +kernel
  have alpha : Text.lowerCharacter 'Α' = Text.lowerCharacter 'α' := by decide +kernel
  have sigma : Text.lowerCharacter 'Σ' = Text.lowerCharacter 'σ' := by decide +kernel
  refine ⟨by simp [Text.SameLetters, alpha, sigma], capital, small, ?_, by decide +kernel,
    by decide +kernel⟩
  intro same
  rw [same, small] at capital
  exact absurd capital (by decide)

end Settings

end Eligibility
