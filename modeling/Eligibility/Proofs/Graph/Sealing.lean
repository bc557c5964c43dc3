import Eligibility.Proofs.Graph.Acyclic
import Eligibility.Proofs.Graph.Change

/-!
# Sealed rules

A composition looks at the seal of its receiver only.  That it never reaches into a sealed rule
rests on an invariant: what is below a sealed node is sealed too.
-/

set_option autoImplicit false

namespace Eligibility

namespace Graph

variable {Criterion : Type}

/-! ## What sealing does -/

theorem node?_sealNodes (graph : Graph Criterion) (ids : List NodeId) (id : NodeId) :
    (graph.sealNodes ids).node? id =
      if id ∈ ids then (graph.node? id).map fun node => { node with isSealed := true }
      else graph.node? id := by
  induction ids generalizing graph with
  | nil => rfl
  | cons first rest ih =>
      have step : graph.sealNodes (first :: rest) =
          (graph.modify first fun node => { node with isSealed := true }).sealNodes rest := rfl
      rw [step, ih, node?_modify]
      by_cases isFirst : id = first
      · subst isFirst
        by_cases inRest : id ∈ rest
        · simp [inRest, Function.comp_def]
        · simp [inRest]
      · simp [isFirst]

theorem size_sealNodes (graph : Graph Criterion) (ids : List NodeId) :
    (graph.sealNodes ids).nodes.size = graph.nodes.size := by
  induction ids generalizing graph with
  | nil => rfl
  | cons first rest ih => exact (ih _).trans (size_modify ..)

theorem shape?_sealNodes (graph : Graph Criterion) (ids : List NodeId) (id : NodeId) :
    (graph.sealNodes ids).shape? id = graph.shape? id := by
  rw [shape?, shape?, node?_sealNodes]
  split
  · rw [Option.map_map]
    rfl
  · rfl

theorem isSealed_sealNodes_iff (graph : Graph Criterion) (ids : List NodeId) (id : NodeId) :
    (graph.sealNodes ids).isSealed id = true ↔
      graph.isSealed id = true ∨ id ∈ ids ∧ ∃ node, graph.node? id = some node := by
  rw [isSealed_iff, isSealed_iff, node?_sealNodes]
  by_cases listed : id ∈ ids
  · cases graph.node? id with
    | none => simp
    | some node => simp [listed]
  · simp [listed]

theorem shape?_sealRule (graph : Graph Criterion) (root id : NodeId) :
    (graph.sealRule root).shape? id = graph.shape? id := by
  unfold sealRule
  split
  · exact shape?_sealNodes graph _ id
  · rfl

/-- To seal a rule seals what is reached from its root, and nothing else. -/
theorem isSealed_sealRule_iff (graph : Graph Criterion) (root : NodeId)
    (acyclic : graph.IsAcyclicFrom root) (id : NodeId) :
    (graph.sealRule root).isSealed id = true ↔
      graph.isSealed id = true ∨ graph.Reaches root id := by
  obtain ⟨rule, unfolded⟩ := (rule?_isSome_iff graph root).mpr acyclic
  obtain ⟨rfl, held⟩ := (rule?_eq_some_iff graph root rule).mp unfolded
  rw [sealRule, unfolded, isSealed_sealNodes_iff, reaches_iff_of_holds graph rule held]
  refine or_congr_right ⟨fun inside => inside.1, fun isLabel => ⟨isLabel, ?_⟩⟩
  exact (node?_isSome_iff graph id).mpr (label_lt_size graph rule held id isLabel)

theorem holds_sealRule_iff (graph : Graph Criterion) (root : NodeId)
    (rule : Rule NodeId Criterion) : (graph.sealRule root).Holds rule ↔ graph.Holds rule := by
  have same := shape?_sealRule graph root
  constructor
  · intro held
    exact holds_of_agree _ graph rule held fun id _ => (same id).symm
  · intro held
    exact holds_of_agree graph _ rule held fun id _ => same id

theorem reaches_sealRule_iff (graph : Graph Criterion) (sealed root id : NodeId) :
    (graph.sealRule sealed).Reaches root id ↔ graph.Reaches root id := by
  have same := shape?_sealRule graph sealed
  constructor
  · exact reaches_of_agree _ graph (fun _ => True) (fun _ _ _ _ _ _ => trivial)
      (fun id _ => (same id).symm) root id trivial
  · exact reaches_of_agree graph _ (fun _ => True) (fun _ _ _ _ _ _ => trivial)
      (fun id _ => same id) root id trivial

/-! ## The invariant -/

/-- What is below a sealed node is sealed, and a sealed node has a rule. -/
structure IsSealedThrough (graph : Graph Criterion) : Prop where
  children_sealed : graph.IsClosed fun id => graph.isSealed id = true
  sealed_has_rule : ∀ id, graph.isSealed id = true → ∃ rule, graph.rule? id = some rule

/-- A later graph has every sealed node as it was. -/
structure KeepsSealed (graph later : Graph Criterion) : Prop where
  size_le : graph.nodes.size ≤ later.nodes.size
  node_eq : ∀ id, graph.isSealed id = true → later.node? id = graph.node? id

theorem empty_isSealedThrough : IsSealedThrough (empty : Graph Criterion) where
  children_sealed := by
    intro id isSealed
    cases isSealed
  sealed_has_rule := by
    intro id isSealed
    cases isSealed

theorem keepsSealed_refl (graph : Graph Criterion) : graph.KeepsSealed graph :=
  ⟨Nat.le_refl _, fun _ _ => rfl⟩

section

variable {graph later : Graph Criterion} (keeps : graph.KeepsSealed later)

include keeps

theorem isSealed_of_keeps (id : NodeId) (isSealed : graph.isSealed id = true) :
    later.isSealed id = true := by
  rw [Graph.isSealed, keeps.node_eq id isSealed]
  exact isSealed

theorem shape?_of_keeps (id : NodeId) (isSealed : graph.isSealed id = true) :
    later.shape? id = graph.shape? id := by
  rw [shape?, shape?, keeps.node_eq id isSealed]

theorem keepsSealed_trans (last : Graph Criterion) (onward : later.KeepsSealed last) :
    graph.KeepsSealed last where
  size_le := Nat.le_trans keeps.size_le onward.size_le
  node_eq := by
    intro id isSealed
    rw [onward.node_eq id (isSealed_of_keeps keeps id isSealed), keeps.node_eq id isSealed]

theorem rule?_of_keeps (invariant : graph.IsSealedThrough) (id : NodeId)
    (isSealed : graph.isSealed id = true) (rule : Rule NodeId Criterion)
    (unfolded : graph.rule? id = some rule) : later.rule? id = some rule :=
  unfold_of_agree graph later (fun id => graph.isSealed id = true) invariant.children_sealed
    (shape?_of_keeps keeps) _ _ keeps.size_le id isSealed rule unfolded

/-- A change that seals nothing keeps the invariant. -/
theorem isSealedThrough_of_keeps (invariant : graph.IsSealedThrough)
    (nothingSealed : ∀ id, later.isSealed id = true → graph.isSealed id = true) :
    later.IsSealedThrough where
  children_sealed := by
    intro id laterSealed shape found child member
    have isSealed := nothingSealed id laterSealed
    rw [shape?_of_keeps keeps id isSealed] at found
    exact isSealed_of_keeps keeps child
      (invariant.children_sealed id isSealed shape found child member)
  sealed_has_rule := by
    intro id laterSealed
    have isSealed := nothingSealed id laterSealed
    obtain ⟨rule, unfolded⟩ := invariant.sealed_has_rule id isSealed
    exact ⟨rule, rule?_of_keeps keeps invariant id isSealed rule unfolded⟩

end

/-! ## One change -/

theorem allocate_keepsSealed (graph : Graph Criterion) (shape : Shape Criterion) :
    graph.KeepsSealed (graph.allocate shape).2 where
  size_le := by simp [allocate]
  node_eq := by
    intro id isSealed
    obtain ⟨node, found, -⟩ := (isSealed_iff graph id).mp isSealed
    have inside := (node?_isSome_iff graph id).mp ⟨node, found⟩
    rw [node?_allocate, if_neg (Nat.ne_of_lt inside)]

theorem isSealed_of_allocate (graph : Graph Criterion) (shape : Shape Criterion) (id : NodeId)
    (isSealed : (graph.allocate shape).2.isSealed id = true) : graph.isSealed id = true := by
  rw [isSealed_iff, node?_allocate] at isSealed
  obtain ⟨node, found, nodeSealed⟩ := isSealed
  by_cases isNew : id = graph.nodes.size
  · rw [if_pos isNew] at found
    cases found
    cases nodeSealed
  · rw [if_neg isNew] at found
    exact (isSealed_iff graph id).mpr ⟨node, found, nodeSealed⟩

theorem extend_keepsSealed (graph : Graph Criterion) (connective : Connective) (target : NodeId)
    (children extended : List NodeId)
    (isOpen : graph.node? target = some ⟨.compound connective children, false⟩) :
    graph.KeepsSealed (graph.replaceChildren connective target extended) where
  size_le := Nat.le_of_eq (size_modify ..).symm
  node_eq := by
    intro id isSealed
    obtain ⟨node, found, nodeSealed⟩ := (isSealed_iff graph id).mp isSealed
    rw [replaceChildren, node?_modify, if_neg]
    rintro rfl
    rw [isOpen] at found
    cases found
    cases nodeSealed

theorem isSealed_of_extend (graph : Graph Criterion) (connective : Connective) (target : NodeId)
    (extended : List NodeId) (id : NodeId)
    (isSealed : (graph.replaceChildren connective target extended).isSealed id = true) :
    graph.isSealed id = true := by
  rw [isSealed_iff, replaceChildren, node?_modify] at isSealed
  obtain ⟨node, found, nodeSealed⟩ := isSealed
  rw [isSealed_iff]
  by_cases isTarget : id = target
  · rw [if_pos isTarget] at found
    obtain ⟨earlier, earlierFound, rfl⟩ := Option.map_eq_some_iff.mp found
    exact ⟨earlier, earlierFound, nodeSealed⟩
  · rw [if_neg isTarget] at found
    exact ⟨node, found, nodeSealed⟩

theorem sealNodes_keepsSealed (graph : Graph Criterion) (ids : List NodeId) :
    graph.KeepsSealed (graph.sealNodes ids) where
  size_le := Nat.le_of_eq (size_sealNodes graph ids).symm
  node_eq := by
    intro id isSealed
    obtain ⟨⟨shape, flag⟩, found, nodeSealed⟩ := (isSealed_iff graph id).mp isSealed
    rw [node?_sealNodes, found]
    cases nodeSealed
    split <;> rfl

/-- Sealing the labels of a rule seals it through: they refer to each other only. -/
theorem sealNodes_isSealedThrough (graph : Graph Criterion) (invariant : graph.IsSealedThrough)
    (root : NodeId) (rule : Rule NodeId Criterion) (unfolded : graph.rule? root = some rule) :
    (graph.sealNodes rule.labels).IsSealedThrough := by
  have labelHasRule : ∀ label ∈ rule.labels, ∃ below, graph.rule? label = some below :=
    fun label member => (labels_of_unfold graph _ root rule unfolded label member).1
  have labelHasNode : ∀ label ∈ rule.labels, ∃ node, graph.node? label = some node := by
    intro label member
    obtain ⟨below, labelUnfolded⟩ := labelHasRule label member
    obtain ⟨shape, found⟩ := shape?_of_rule? graph label below labelUnfolded
    obtain ⟨node, nodeFound, -⟩ := node?_of_shape? graph label shape found
    exact ⟨node, nodeFound⟩
  have sameRule : ∀ id below, graph.rule? id = some below →
      (graph.sealNodes rule.labels).rule? id = some below := by
    intro id below earlier
    exact unfold_of_agree graph _ (fun _ => True) (fun _ _ _ _ _ _ => trivial)
      (fun id _ => shape?_sealNodes graph rule.labels id) _ _
      (Nat.le_of_eq (size_sealNodes graph rule.labels).symm) id trivial below earlier
  constructor
  · intro id laterSealed shape found child member
    rw [shape?_sealNodes] at found
    rw [isSealed_sealNodes_iff] at laterSealed ⊢
    rcases laterSealed with isSealed | ⟨isLabel, -⟩
    · exact .inl (invariant.children_sealed id isSealed shape found child member)
    · have childLabel :=
        (labels_of_unfold graph _ root rule unfolded id isLabel).2 shape found child member
      exact .inr ⟨childLabel, labelHasNode child childLabel⟩
  · intro id laterSealed
    rw [isSealed_sealNodes_iff] at laterSealed
    have earlierRule : ∃ below, graph.rule? id = some below := by
      rcases laterSealed with isSealed | ⟨isLabel, -⟩
      · exact invariant.sealed_has_rule id isSealed
      · exact labelHasRule id isLabel
    obtain ⟨below, earlier⟩ := earlierRule
    exact ⟨below, sameRule id below earlier⟩

/-- What one change preserves. -/
theorem change_keeps_sealed (graph later : Graph Criterion) (change : Change graph later)
    (invariant : graph.IsSealedThrough) : later.IsSealedThrough ∧ graph.KeepsSealed later := by
  cases change with
  | allocate shape =>
      have keeps := allocate_keepsSealed graph shape
      exact ⟨isSealedThrough_of_keeps keeps invariant (isSealed_of_allocate graph shape), keeps⟩
  | extend connective target children added isOpen =>
      have keeps := extend_keepsSealed graph connective target children (children ++ added) isOpen
      exact ⟨isSealedThrough_of_keeps keeps invariant
        (isSealed_of_extend graph connective target (children ++ added)), keeps⟩
  | sealRule root =>
      unfold sealRule
      cases unfolded : graph.rule? root with
      | none => exact ⟨invariant, keepsSealed_refl graph⟩
      | some rule =>
          exact ⟨sealNodes_isSealedThrough graph invariant root rule unfolded,
            sealNodes_keepsSealed graph rule.labels⟩

/-! ## Any number of changes -/

theorem evolves_keeps_sealed (graph later : Graph Criterion) (evolves : graph.Evolves later)
    (invariant : graph.IsSealedThrough) : later.IsSealedThrough ∧ graph.KeepsSealed later := by
  induction evolves with
  | refl => exact ⟨invariant, keepsSealed_refl graph⟩
  | tail earlier change ih =>
      obtain ⟨stillSealed, keeps⟩ := ih
      obtain ⟨lastSealed, onward⟩ := change_keeps_sealed _ _ change stillSealed
      exact ⟨lastSealed, keepsSealed_trans keeps _ onward⟩

/-- The nodes below a sealed node, and the rule that they make up, stay as they are. -/
theorem sealed_rule_stays (graph later : Graph Criterion) (evolves : graph.Evolves later)
    (invariant : graph.IsSealedThrough) (id : NodeId) (isSealed : graph.isSealed id = true) :
    (∀ below, graph.Reaches id below →
      graph.isSealed below = true ∧ later.node? below = graph.node? below) ∧
    (∀ below, later.Reaches id below ↔ graph.Reaches id below) ∧
    ∃ rule, graph.rule? id = some rule ∧ later.rule? id = some rule := by
  obtain ⟨-, keeps⟩ := evolves_keeps_sealed graph later evolves invariant
  have closed := invariant.children_sealed
  have laterClosed : later.IsClosed fun id => graph.isSealed id = true := by
    intro other otherSealed shape found
    rw [shape?_of_keeps keeps other otherSealed] at found
    exact closed other otherSealed shape found
  refine ⟨?_, ?_, ?_⟩
  · intro below path
    have belowSealed := closed_reaches graph _ closed id below path isSealed
    exact ⟨belowSealed, keeps.node_eq below belowSealed⟩
  · intro below
    constructor
    · exact reaches_of_agree later graph _ laterClosed
        (fun other otherSealed => (shape?_of_keeps keeps other otherSealed).symm) id below isSealed
    · exact reaches_of_agree graph later _ closed (shape?_of_keeps keeps) id below isSealed
  · obtain ⟨rule, unfolded⟩ := invariant.sealed_has_rule id isSealed
    exact ⟨rule, unfolded, rule?_of_keeps keeps invariant id isSealed rule unfolded⟩

end Graph

end Eligibility
