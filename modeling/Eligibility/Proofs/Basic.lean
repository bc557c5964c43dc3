import Eligibility.Fault

/-!
# Results and lists

Computations that may fail come to a result one after the other, and the first fault is that of the
row.  Values that are mapped keep their names, and a list falls apart where its elements cease to be
of one kind.
-/

set_option autoImplicit false

namespace Eligibility

section Results

variable {Kind Other : Type} (first : Except Fault Kind) (next : Kind → Except Fault Other)

theorem bind_eq_ok_iff (result : Other) :
    (first >>= next) = .ok result ↔ ∃ middle, first = .ok middle ∧ next middle = .ok result := by
  cases first with
  | ok middle => simp [bind, Except.bind]
  | error fault => simp [bind, Except.bind]

theorem bind_eq_error_iff (fault : Fault) :
    (first >>= next) = .error fault ↔
      first = .error fault ∨ ∃ middle, first = .ok middle ∧ next middle = .error fault := by
  cases first with
  | ok middle => simp [bind, Except.bind]
  | error other => simp [bind, Except.bind]

theorem eq_of_map_ok (wrap : Kind → Other) (result : Other) (mapped : first.map wrap = .ok result) :
    ∃ value, result = wrap value := by
  cases first with
  | error fault => cases mapped
  | ok value =>
      cases mapped
      exact ⟨value, rfl⟩

end Results

/-! ## Lists -/

theorem lookup_map {First Second : Type} (change : String → First → Second) (key : String)
    (named : List (String × First)) :
    (named.map fun entry => (entry.1, change entry.1 entry.2)).lookup key =
      (named.lookup key).map (change key) := by
  induction named with
  | nil => rfl
  | cons entry rest ih =>
      rw [List.map_cons, List.lookup_cons, List.lookup_cons]
      cases same : key == entry.1 with
      | true => rw [← eq_of_beq same, Option.map_some]
      | false => exact ih

section Images

variable {Source Target : Type}

theorem mapM_eq_some_of_agree (first second : Source → Option Target)
    (sources : List Source)
    (agree : ∀ source ∈ sources, ∀ target, first source = some target →
      second source = some target)
    (targets : List Target) (mapped : sources.mapM first = some targets) :
    sources.mapM second = some targets := by
  induction sources generalizing targets with
  | nil => exact mapped
  | cons source rest ih =>
      obtain ⟨agreeHere, agreeRest⟩ := List.forall_mem_cons.mp agree
      rw [List.mapM_cons] at mapped ⊢
      obtain ⟨target, here, later⟩ := Option.bind_eq_some_iff.mp mapped
      obtain ⟨others, restMapped, same⟩ := Option.bind_eq_some_iff.mp later
      rw [agreeHere target here, ih agreeRest others restMapped]
      exact same

theorem mapM_eq_some_mem (image : Source → Option Target)
    (sources : List Source) (targets : List Target) (mapped : sources.mapM image = some targets) :
    (∀ target ∈ targets, ∃ source ∈ sources, image source = some target) ∧
    ∀ source ∈ sources, ∃ target ∈ targets, image source = some target := by
  induction sources generalizing targets with
  | nil =>
      cases mapped
      simp
  | cons source rest ih =>
      rw [List.mapM_cons] at mapped
      obtain ⟨target, here, later⟩ := Option.bind_eq_some_iff.mp mapped
      obtain ⟨others, restMapped, same⟩ := Option.bind_eq_some_iff.mp later
      cases same
      obtain ⟨fromSources, toTargets⟩ := ih others restMapped
      rw [List.forall_mem_cons, List.forall_mem_cons]
      refine ⟨⟨⟨source, List.mem_cons_self .., here⟩, ?_⟩,
        ⟨target, List.mem_cons_self .., here⟩, ?_⟩
      · intro other member
        obtain ⟨origin, inside, found⟩ := fromSources other member
        exact ⟨origin, List.mem_cons_of_mem source inside, found⟩
      · intro other member
        obtain ⟨found, inside, image⟩ := toTargets other member
        exact ⟨found, List.mem_cons_of_mem target inside, image⟩

end Images

section Cuts

variable {Kind : Type}

theorem cut_append {isInside : Kind → Bool} (first rest : List Kind)
    (inside : ∀ element ∈ first, isInside element = true)
    (outside : ∀ element ∈ rest.head?, isInside element = false) :
    (first ++ rest).takeWhile isInside = first ∧ (first ++ rest).dropWhile isInside = rest := by
  rw [List.takeWhile_append_of_pos inside, List.dropWhile_append_of_pos inside]
  cases rest with
  | nil => simp
  | cons element later => simp [outside element rfl]

theorem cut_unique (isInside : Kind → Bool) {first second rest other : List Kind}
    (firstInside : ∀ element ∈ first, isInside element = true)
    (secondInside : ∀ element ∈ second, isInside element = true)
    (restOutside : ∀ element ∈ rest.head?, isInside element = false)
    (otherOutside : ∀ element ∈ other.head?, isInside element = false)
    (same : first ++ rest = second ++ other) : first = second ∧ rest = other := by
  obtain ⟨front, back⟩ := cut_append first rest firstInside restOutside
  obtain ⟨otherFront, otherBack⟩ := cut_append second other secondInside otherOutside
  rw [same] at front back
  exact ⟨front.symm.trans otherFront, back.symm.trans otherBack⟩

end Cuts

end Eligibility
