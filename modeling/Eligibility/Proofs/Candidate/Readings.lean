import Eligibility.Candidate.Source
import Eligibility.Criterion.Basic
import Eligibility.Proofs.Basic

/-!
# Readings of a field

All readings of a field follow from its value, and the outcome of a criterion follows from the
readings of the field that it asks for.  No two dates are read alike.  A value that cannot be put
into words is read as nothing, and the fault does not name its field.
-/

set_option autoImplicit false

namespace Eligibility

namespace Source

theorem get_candidate (source : Source) (key : String) :
    source.candidate.record.get key =
      ((source.wrapped.lookup key).map source.valueOf).getD .absent := by
  rw [Record.get, candidate, lookup_map fun _ => source.valueOf]

end Source

namespace Candidate

/-! ## What a reading comes to -/

/-- The results that the reading of a field as something expected can have. -/
inductive ReadsAs {Kind : Type} (candidate : Candidate) (key : String) (expected : Expectation) :
    Except Fault Kind → Prop
  | value (hasText : (candidate.record.get key).text?.isSome = true) (value : Kind) :
      ReadsAs candidate key expected (.ok value)
  | missing (hasText : (candidate.record.get key).text?.isSome = true) :
      ReadsAs candidate key expected (.error (.missingField key))
  | malformed (hasText : (candidate.record.get key).text?.isSome = true) :
      ReadsAs candidate key expected
        (.error (.malformedValue key (candidate.record.get key) hasText expected))
  | textless (noText : (candidate.record.get key).text? = none) :
      ReadsAs candidate key expected (.error .textless)

section

variable {Kind : Type} (candidate : Candidate) (key : String)

theorem readsAs_of_read (expected : Expectation) (read : String → Value → Except Fault Kind)
    (turns : ∀ raw, (∃ value, raw.text?.isSome = true ∧ read key raw = .ok value) ∨
      read key raw = .error (.malformed key raw expected)) :
    candidate.ReadsAs key expected (candidate.lookup key read) := by
  rw [lookup]
  split
  case isTrue missing =>
    have hasText : (candidate.record.get key).text?.isSome = true := by
      cases raw : candidate.record.get key with
      | null | absent => rfl
      | _ => simp [raw, Value.isMissing] at missing
    exact .missing hasText
  case isFalse =>
    obtain ⟨value, hasText, found⟩ | failed := turns (candidate.record.get key)
    · rw [found]
      exact .value hasText value
    · rw [failed]
      cases text : (candidate.record.get key).text? with
      | none =>
          rw [Fault.malformed_of_textless text]
          exact .textless text
      | some words =>
          have hasText : (candidate.record.get key).text?.isSome = true := by rw [text]; rfl
          rw [Fault.malformed_of_text hasText]
          exact .malformed hasText

theorem readText_readsAs : candidate.ReadsAs key .text (candidate.readText key) := by
  apply readsAs_of_read
  intro raw
  cases raw with
  | text text => exact .inl ⟨text, rfl, rfl⟩
  | _ => exact .inr rfl

theorem readDecimal_readsAs : candidate.ReadsAs key .decimal (candidate.readDecimal key) := by
  apply readsAs_of_read
  intro raw
  rw [Field.readDecimal]
  cases found : Field.decimalOf? raw with
  | none => exact .inr rfl
  | some value =>
      cases raw with
      | decimal | number | text => exact .inl ⟨value, rfl, rfl⟩
      | _ => cases found

theorem readDate_readsAs : candidate.ReadsAs key .date (candidate.readDate key) := by
  apply readsAs_of_read
  intro raw
  rw [Field.readDate]
  cases found : Field.dateOf? raw with
  | none => exact .inr rfl
  | some value =>
      cases raw with
      | date instant => exact .inl ⟨value, Value.date_hasText instant, rfl⟩
      | text => exact .inl ⟨value, rfl, rfl⟩
      | _ => cases found

end

end Candidate

/-- What a record holds in the place of a field can be put into words. -/
def EmployeeField.HasText (field : EmployeeField) (candidate : Candidate) : Prop :=
  (candidate.record.get field.key).text?.isSome = true

instance (field : EmployeeField) (candidate : Candidate) : Decidable (field.HasText candidate) :=
  inferInstanceAs (Decidable (_ = true))

theorem EmployeeField.not_hasText_iff (field : EmployeeField) (candidate : Candidate) :
    ¬field.HasText candidate ↔ (candidate.record.get field.key).text? = none := by
  simp [HasText]

namespace Candidate

/-! ## Readings that are the same -/

variable {first second : Candidate} {key : String}

/-- All readings of a field are the same. -/
def ReadsAlike (first second : Candidate) (key : String) : Prop :=
  first.readText key = second.readText key ∧ first.readDecimal key = second.readDecimal key ∧
    first.readDate key = second.readDate key

theorem readsAlike_of_get_eq (same : first.record.get key = second.record.get key) :
    first.ReadsAlike second key := by
  simp only [ReadsAlike, readText, readDecimal, readDate, lookup, same, and_self]

section Dates
variable {time other : Option Instant} (dated : first.record.get key = .date time)
  (otherDated : second.record.get key = .date other)
include dated otherDated

theorem readText_eq_iff_of_date : first.readText key = second.readText key ↔ time = other := by
  simp [readText, lookup, dated, otherDated, Value.isMissing, Field.readText,
    Fault.malformed_eq_iff, Value.date_hasText]

theorem readDecimal_eq_iff_of_date :
    first.readDecimal key = second.readDecimal key ↔ time = other := by
  simp [readDecimal, lookup, dated, otherDated, Value.isMissing, Field.readDecimal,
    Field.decimalOf?, Fault.malformed_eq_iff, Value.date_hasText]

theorem readDate_eq_iff_of_date : first.readDate key = second.readDate key ↔ time = other := by
  simp only [readDate, lookup, dated, otherDated, Value.isMissing, Field.readDate, Field.dateOf?]
  cases time <;> cases other <;> simp

end Dates

end Candidate

namespace Criterion

def field? : Criterion → Option String
  | .field rule => some rule.field
  | .salary _ => some EmployeeField.grossSalary.key
  | .tenure _ => some EmployeeField.admissionDate.key
  | .flagged _ | .unfinished | .scripted _ => none

theorem judge_eq_of_readsAlike (criterion : Criterion) {first second : Candidate}
    (alike : ∀ key ∈ criterion.field?, first.ReadsAlike second key) (calls : Nat) :
    criterion.judge (.wrapped first) calls = criterion.judge (.wrapped second) calls := by
  cases criterion with
  | field rule =>
      have same := (alike rule.field rfl).1
      simp only [judge, FieldMatch.judge, Subject.candidate, same]
  | salary rule =>
      have same := (alike EmployeeField.grossSalary.key rfl).2.1
      simp only [judge, SalaryRule.judge, Subject.candidate, same]
  | tenure rule =>
      have same := (alike EmployeeField.admissionDate.key rfl).2.2
      simp only [judge, TenureRule.judge, Subject.candidate, same]
  | flagged key => rfl
  | unfinished => rfl
  | scripted script =>
      rw [judge, judge]
      cases script.outcomeAfter calls <;> rfl

end Criterion

end Eligibility
