import Eligibility.Candidate.Exposure

/-!
# What the outside does to the dates

A step of the outside moves one date in place, or it adds dates and leaves the others as they are.
So a date has the last time that it was given, and a copy is never one of the dates that were there
before.
-/

set_option autoImplicit false

namespace Eligibility

/-! ## Cells -/

namespace Source

/-- Every date that the candidate holds has a cell. -/
def InBounds (source : Source) : Prop :=
  ∀ key index, source.wrapped.lookup key = some (.cell index) → index < source.cells.size

theorem store_cells (cells : Array (Option Instant)) (value : Value) :
    ∃ added, (store cells value).1 = cells ++ added := by
  cases value with
  | date instant => exact ⟨#[instant], Array.push_eq_append⟩
  | _ => exact ⟨#[], (Array.append_empty).symm⟩

theorem store_inBounds (cells : Array (Option Instant)) (value : Value) {index : Nat}
    (stored : (store cells value).2 = .cell index) : index < (store cells value).1.size := by
  cases value with
  | date instant =>
      cases stored
      rw [store, Array.size_push]
      exact Nat.lt_succ_self _
  | _ => cases stored

theorem storeAll_inBounds (record : Record) (cells : Array (Option Instant)) :
    cells.size ≤ (storeAll cells record).1.size ∧
      ∀ key index, (storeAll cells record).2.lookup key = some (.cell index) →
        index < (storeAll cells record).1.size := by
  induction record generalizing cells with
  | nil => exact ⟨Nat.le_refl _, by simp [storeAll]⟩
  | cons field rest ih =>
      obtain ⟨name, value⟩ := field
      obtain ⟨grown, others⟩ := ih (store cells value).1
      rw [storeAll]
      have first : cells.size ≤ (store cells value).1.size := by
        obtain ⟨added, same⟩ := store_cells cells value
        rw [same, Array.size_append]
        exact Nat.le_add_right _ _
      refine ⟨Nat.le_trans first grown, fun key index found => ?_⟩
      rw [List.lookup_cons] at found
      split at found
      case h_1 =>
        have stored := store_inBounds cells value (Option.some.inj found)
        exact Nat.lt_of_lt_of_le stored grown
      case h_2 => exact others key index found

/-- Every date of a candidate that was just made has a cell. -/
theorem ofSubject_inBounds (subject : Subject) : (ofSubject subject).InBounds := by
  cases subject with
  | plain record => exact (storeAll_inBounds record #[]).2
  | wrapped candidate => exact (storeAll_inBounds candidate.record #[]).2

end Source

namespace Exposure

variable {exposure : Exposure} {change : Change} {index : Nat}

/-- The date that a change moves, and the time that it gets. -/
def moved? (exposure : Exposure) : Change → Option (Nat × Option Instant)
  | .move handle instant =>
    match exposure.field? handle with
    | some (.cell index) => some (index, instant)
    | _ => none
  | _ => none

theorem giveBlamed_frame (exposure : Exposure) (key : String) :
    (exposure.giveBlamed key).source = exposure.source ∧
      (exposure.giveBlamed key).copies = exposure.copies := by
  rw [giveBlamed]
  split <;> exact ⟨rfl, rfl⟩

/-- A change moves one date in place, or it leaves all dates as they are and adds some, of which
the outside may get one as a copy. -/
theorem apply_cases (exposure : Exposure) (change : Change) :
    (∃ moved time, exposure.moved? change = some (moved, time) ∧
      (exposure.apply change).source.cells = exposure.source.cells.setIfInBounds moved time ∧
      (exposure.apply change).copies = exposure.copies) ∨
    (exposure.moved? change = none ∧
      ∃ added, (exposure.apply change).source.cells = exposure.source.cells ++ added ∧
        ((exposure.apply change).copies = exposure.copies ∨
          (exposure.apply change).copies =
            exposure.copies ++ [exposure.source.cells.size])) := by
  cases change with
  | set key value =>
      obtain ⟨added, grown⟩ := Source.store_cells exposure.source.cells value
      exact .inr ⟨rfl, added, grown, .inl rfl⟩
  | share key handle => exact .inr ⟨rfl, #[], (Array.append_empty).symm, .inl rfl⟩
  | erase key => exact .inr ⟨rfl, #[], (Array.append_empty).symm, .inl rfl⟩
  | move handle instant =>
      rw [apply, moved?]
      obtain _ | _ | moved := exposure.field? handle
      · exact .inr ⟨rfl, #[], (Array.append_empty).symm, .inl rfl⟩
      · exact .inr ⟨rfl, #[], (Array.append_empty).symm, .inl rfl⟩
      · exact .inl ⟨moved, instant, rfl, rfl, rfl⟩
  | keepDate key =>
      right
      rw [apply]
      split
      case h_1 instant _ => exact ⟨rfl, #[some instant], Array.push_eq_append, .inr rfl⟩
      case h_2 =>
        -- a reading that fails gives away a date that is there already
        obtain ⟨source, copies⟩ := giveBlamed_frame exposure key
        exact ⟨rfl, #[], by rw [source, Array.append_empty], .inl copies⟩
  | keepBlamed key =>
      obtain ⟨source, copies⟩ := giveBlamed_frame exposure key
      exact .inr ⟨rfl, #[], by rw [apply, source, Array.append_empty], .inl copies⟩

@[simp]
theorem wrapped_apply (exposure : Exposure) (change : Change) :
    (exposure.apply change).source.wrapped = exposure.source.wrapped := by
  cases change with
  | set key value => rfl
  | share key handle => rfl
  | erase key => rfl
  | move handle instant =>
      rw [apply]
      split <;> rfl
  | keepDate key =>
      rw [apply]
      split
      · rfl
      · rw [(giveBlamed_frame exposure key).1]
  | keepBlamed key => rw [apply, (giveBlamed_frame exposure key).1]

theorem size_le_apply (exposure : Exposure) (change : Change) :
    exposure.source.cells.size ≤ (exposure.apply change).source.cells.size := by
  obtain ⟨moved, time, -, cells, -⟩ | ⟨-, added, cells, -⟩ := apply_cases exposure change
  · exact Nat.le_of_eq (by rw [cells, Array.size_setIfInBounds])
  · rw [cells, Array.size_append]
    exact Nat.le_add_right _ _

def timeGiven? (exposure : Exposure) (change : Change) (index : Nat) : Option (Option Instant) :=
  match exposure.moved? change with
  | some (moved, time) => if moved = index then some time else none
  | none => none

def timesOf (index : Nat) : Exposure → List Change → List (Option Instant)
  | _, [] => []
  | exposure, change :: rest =>
    (exposure.timeGiven? change index).toList ++ timesOf index (exposure.apply change) rest

theorem getElem?_apply {time : Option Instant}
    (held : exposure.source.cells[index]? = some time) :
    (exposure.apply change).source.cells[index]? =
      some ((exposure.timeGiven? change index).getD time) := by
  have allocated := (Array.getElem?_eq_some_iff.mp held).1
  rw [timeGiven?]
  obtain ⟨moved, given, moves, cells, -⟩ | ⟨still, added, cells, -⟩ := apply_cases exposure change
  · rw [moves, cells, Array.getElem?_setIfInBounds, held]
    by_cases same : moved = index
    · simp [same, allocated]
    · simp [same]
  · rw [still, cells, Array.getElem?_append_left allocated, held]
    rfl

/-- After a run a date has the last time that it was given, or else the one it had. -/
theorem getElem?_run (changes : List Change) {exposure : Exposure} {time : Option Instant}
    (held : exposure.source.cells[index]? = some time) :
    (exposure.run changes).source.cells[index]? =
      some ((timesOf index exposure changes).getLast?.getD time) := by
  induction changes generalizing exposure time with
  | nil => exact held
  | cons change rest ih =>
      rw [run, List.foldl_cons, ← run, ih (getElem?_apply held), timesOf, List.getLast?_append]
      cases (timesOf index (exposure.apply change) rest).getLast? with
      | some last => rfl
      | none =>
          cases exposure.timeGiven? change index with
          | none => rfl
          | some given => rfl

theorem wrapped_run (changes : List Change) (exposure : Exposure) :
    (exposure.run changes).source.wrapped = exposure.source.wrapped := by
  induction changes generalizing exposure with
  | nil => rfl
  | cons change rest ih => rw [run, List.foldl_cons, ← run, ih, wrapped_apply]

/-! ## Copies -/

/-- No copy that the outside has is one of the first dates, `count` in number. -/
def CopiesApart (count : Nat) (exposure : Exposure) : Prop :=
  count ≤ exposure.source.cells.size ∧ ∀ copy ∈ exposure.copies, count ≤ copy

theorem copiesApart_apply {count : Nat} (apart : CopiesApart count exposure) (change : Change) :
    CopiesApart count (exposure.apply change) := by
  refine ⟨Nat.le_trans apart.1 (size_le_apply exposure change), ?_⟩
  obtain ⟨_, _, -, -, copies⟩ | ⟨-, _, -, copies | copies⟩ := apply_cases exposure change
  · rw [copies]
    exact apart.2
  · rw [copies]
    exact apart.2
  · rw [copies]
    intro copy member
    obtain earlier | new := List.mem_append.mp member
    · exact apart.2 copy earlier
    · rw [List.mem_singleton.mp new]
      exact apart.1

end Exposure

/-- Anything but moving a date that the source record or a fault holds. -/
def Change.IsHarmless : Change → Prop
  | .move (.record _) _ | .move (.blamed _) _ => False
  | _ => True

namespace Exposure

variable {exposure : Exposure} {change : Change} {index : Nat}

theorem timeGiven?_of_isHarmless {count : Nat} (apart : CopiesApart count exposure)
    (harmless : change.IsHarmless) (old : index < count) :
    exposure.timeGiven? change index = none := by
  rw [timeGiven?]
  cases change with
  | move handle instant =>
      cases handle with
      | record key => exact harmless.elim
      | blamed place => exact harmless.elim
      | copy place =>
          simp only [moved?, field?]
          cases found : exposure.copies[place]? with
          | none => rfl
          | some copy =>
              -- the copy was made after the dates that are looked at
              have new := apart.2 copy (List.mem_of_getElem? found)
              exact if_neg (by omega)
  | _ => rfl

theorem timesOf_of_isHarmless (changes : List Change) {count : Nat} {exposure : Exposure}
    (apart : CopiesApart count exposure) (harmless : ∀ change ∈ changes, change.IsHarmless)
    (old : index < count) : timesOf index exposure changes = [] := by
  induction changes generalizing exposure with
  | nil => rfl
  | cons change rest ih =>
      obtain ⟨first, others⟩ := List.forall_mem_cons.mp harmless
      rw [timesOf, timeGiven?_of_isHarmless apart first old,
        ih (copiesApart_apply apart change) others]
      rfl

end Exposure

end Eligibility
