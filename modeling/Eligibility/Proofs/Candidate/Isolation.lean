import Eligibility.Proofs.Candidate.Exposure
import Eligibility.Proofs.Candidate.Readings

/-!
# What a candidate sees of later changes

The fields of a candidate never change, and what the outside sets, erases or does to a copy is not
seen.  The dates that the candidate shares are, though: a reading answers as at first exactly when
the date behind it has the time that it had then.
-/

set_option autoImplicit false

namespace Eligibility

namespace Source

variable (source : Source) (changes : List Change)

/-- The candidate after what the outside did since it was made. -/
def candidateAfter : Candidate :=
  ((Exposure.ofSource source).run changes).candidate

/-- The date that the candidate holds under a name, if it is one, is not moved, or it is moved back
in the end. -/
def KeepsTime (key : String) : Prop :=
  ∀ index, source.wrapped.lookup key = some (.cell index) →
    ∀ last ∈ (Exposure.timesOf index (Exposure.ofSource source) changes).getLast?,
      source.cells[index]? = some last

theorem get_candidateAfter (key : String) :
    (source.candidateAfter changes).record.get key = ((source.wrapped.lookup key).map
      ((Exposure.ofSource source).run changes).source.valueOf).getD .absent := by
  rw [candidateAfter, Exposure.candidate, get_candidate, Exposure.wrapped_run]
  rfl

variable {source} {key : String}

theorem keepsTime_of_no_date (noDate : ∀ index, source.wrapped.lookup key ≠ some (.cell index)) :
    source.KeepsTime changes key :=
  fun index found => absurd found (noDate index)

theorem keepsTime_iff {index : Nat} {time : Option Instant}
    (found : source.wrapped.lookup key = some (.cell index))
    (held : source.cells[index]? = some time) :
    source.KeepsTime changes key ↔
      (Exposure.timesOf index (Exposure.ofSource source) changes).getLast?.getD time = time := by
  have only : source.KeepsTime changes key ↔
      ∀ last ∈ (Exposure.timesOf index (Exposure.ofSource source) changes).getLast?,
        source.cells[index]? = some last := by
    constructor
    · intro keeps
      exact keeps index found
    · intro keeps other otherFound
      cases found.symm.trans otherFound
      exact keeps
  rw [only, held]
  cases (Exposure.timesOf index (Exposure.ofSource source) changes).getLast? with
  | none => simp
  | some last => simp [eq_comm]

/-- A field is a value of its own, which stays, or a date with a first and a last time. -/
theorem get_cases (inBounds : source.InBounds) (key : String) :
    (source.KeepsTime changes key ∧
      (source.candidateAfter changes).record.get key = source.candidate.record.get key) ∨
    ∃ time last, source.candidate.record.get key = .date time ∧
      (source.candidateAfter changes).record.get key = .date last ∧
      (source.KeepsTime changes key ↔ last = time) := by
  rw [get_candidateAfter, get_candidate]
  cases found : source.wrapped.lookup key with
  | none => exact .inl ⟨keepsTime_of_no_date changes (by simp [found]), rfl⟩
  | some field =>
      cases field with
      | value value => exact .inl ⟨keepsTime_of_no_date changes (by simp [found]), rfl⟩
      | cell index =>
          right
          obtain ⟨time, held⟩ : ∃ time, source.cells[index]? = some time :=
            ⟨_, Array.getElem?_eq_getElem (inBounds key index found)⟩
          have moved := Exposure.getElem?_run changes
            (show (Exposure.ofSource source).source.cells[index]? = some time from held)
          have first : source.valueOf (.cell index) = .date time := by
            rw [valueOf, held, Option.getD_some]
          have after : ((Exposure.ofSource source).run changes).source.valueOf (.cell index) =
              .date ((Exposure.timesOf index (Exposure.ofSource source) changes).getLast?.getD
                time) := by
            rw [valueOf, moved, Option.getD_some]
          exact ⟨time, _, first, after, keepsTime_iff changes found held⟩

/-- A reading of any kind answers as at first exactly when the date behind it, if there is one, has
the time that it had then. -/
theorem readings_iff (inBounds : source.InBounds) (key : String) :
    ((source.candidateAfter changes).readText key = source.candidate.readText key ↔
      source.KeepsTime changes key) ∧
    ((source.candidateAfter changes).readDecimal key = source.candidate.readDecimal key ↔
      source.KeepsTime changes key) ∧
    ((source.candidateAfter changes).readDate key = source.candidate.readDate key ↔
      source.KeepsTime changes key) := by
  obtain ⟨keeps, same⟩ | ⟨time, last, dated, lastDated, keeps⟩ := get_cases changes inBounds key
  · obtain ⟨text, decimal, date⟩ := Candidate.readsAlike_of_get_eq same
    exact ⟨iff_of_true text keeps, iff_of_true decimal keeps, iff_of_true date keeps⟩
  · rw [keeps]
    exact ⟨Candidate.readText_eq_iff_of_date lastDated dated,
      Candidate.readDecimal_eq_iff_of_date lastDated dated,
      Candidate.readDate_eq_iff_of_date lastDated dated⟩

theorem readsAlike_of_keepsTime (inBounds : source.InBounds)
    (keeps : source.KeepsTime changes key) :
    (source.candidateAfter changes).ReadsAlike source.candidate key := by
  obtain ⟨text, decimal, date⟩ := readings_iff changes inBounds key
  exact ⟨text.mpr keeps, decimal.mpr keeps, date.mpr keeps⟩

theorem has_candidateAfter (inBounds : source.InBounds) (key : String) :
    (source.candidateAfter changes).has key = source.candidate.has key := by
  obtain ⟨-, same⟩ | ⟨time, last, dated, lastDated, -⟩ := get_cases changes inBounds key
  · rw [Candidate.has, Candidate.has, same]
  · rw [Candidate.has, Candidate.has, dated, lastDated]
    rfl

theorem keepsTime_of_isHarmless (inBounds : source.InBounds)
    (harmless : ∀ change ∈ changes, change.IsHarmless) (key : String) :
    source.KeepsTime changes key := by
  intro index found
  have apart : Exposure.CopiesApart source.cells.size (Exposure.ofSource source) :=
    ⟨Nat.le_refl _, by simp [Exposure.ofSource]⟩
  rw [Exposure.timesOf_of_isHarmless changes apart harmless (inBounds key index found)]
  simp

/-! ## Isolation -/

/-- A candidate is isolated from all that the outside does, except for moves of the dates that it
shares with the source record and gives away in its faults.  Whether a field is there never changes,
and a reading answers as at first exactly when the date behind it, if there is one, is not moved or
is moved back in the end; then every criterion that reads the field keeps its outcome. -/
theorem candidate_sees_shared_dates_only (source : Source) (inBounds : source.InBounds)
    (changes : List Change) :
    (∀ key, (source.candidateAfter changes).has key = source.candidate.has key) ∧
    (∀ key,
      ((source.candidateAfter changes).readText key = source.candidate.readText key ↔
        source.KeepsTime changes key) ∧
      ((source.candidateAfter changes).readDecimal key = source.candidate.readDecimal key ↔
        source.KeepsTime changes key) ∧
      ((source.candidateAfter changes).readDate key = source.candidate.readDate key ↔
        source.KeepsTime changes key)) ∧
    (∀ (criterion : Criterion) (calls : Nat),
      (∀ key ∈ criterion.field?, source.KeepsTime changes key) →
        criterion.judge (.wrapped (source.candidateAfter changes)) calls =
          criterion.judge (.wrapped source.candidate) calls) ∧
    ((∀ change ∈ changes, change.IsHarmless) → ∀ key, source.KeepsTime changes key) := by
  refine ⟨has_candidateAfter changes inBounds, readings_iff changes inBounds, ?outcomes,
    keepsTime_of_isHarmless changes inBounds⟩
  case outcomes =>
    intro criterion calls keeps
    exact criterion.judge_eq_of_readsAlike
      (fun key member => readsAlike_of_keepsTime changes inBounds (keeps key member)) calls

def admitted : Source :=
  .ofSubject (.plain [("data_de_admissao", .date (Instant.ofMilliseconds? 1546300800000))])

def movedAdmission : List Change :=
  [.keepDate "data_de_admissao", .move (.record "data_de_admissao") (Instant.ofMilliseconds? 0)]

theorem moved_admission_read_later :
    admitted.InBounds ∧
      (admitted.candidateAfter movedAdmission).readDate "data_de_admissao" ≠
        admitted.candidate.readDate "data_de_admissao" := by
  have inBounds : admitted.InBounds := ofSubject_inBounds _
  obtain ⟨-, readings, -, -⟩ := candidate_sees_shared_dates_only admitted inBounds movedAdmission
  refine ⟨inBounds, fun same => ?_⟩
  have keeps := (readings "data_de_admissao").2.2.mp same
  have early := keeps 0 rfl (Instant.ofMilliseconds? 0) rfl
  exact absurd early (by decide)

end Source

end Eligibility
