import Eligibility.Criterion.Basic
import Eligibility.Proofs.Graph.Sealing

/-!
# Sealing by descent

A rule is sealed by a call to its root: every node passes the call on to the nodes that it refers
to and then seals itself.  The calls look at no seal, and come to a shared node several times.  They
end where nothing below the root is circular, and seal what is below the root.
-/

set_option autoImplicit false

namespace Eligibility

namespace Graph

section

variable {Criterion : Type}

def sealNode (graph : Graph Criterion) (id : NodeId) : Graph Criterion :=
  graph.modify id fun node => { node with isSealed := true }

/-- A call to seal a node.  It ends if there are at most `depth` calls inside each other. -/
def sealDown : Nat → Graph Criterion → NodeId → Option (Graph Criterion)
  | 0, _, _ => none
  | depth + 1, graph, id =>
    match graph.shape? id with
    | none => none
    | some (.leaf _) | some (.constant _) => some (graph.sealNode id)
    | some (.compound _ children) => (children.foldlM (sealDown depth) graph).map (·.sealNode id)
    | some (.exclusive left right) =>
      (sealDown depth graph left).bind fun reached =>
        (sealDown depth reached right).map (·.sealNode id)
    | some (.negation operand) => (sealDown depth graph operand).map (·.sealNode id)

/-! ## Graphs of the same nodes -/

theorem node?_eq_of_parts (graph other : Graph Criterion) (id : NodeId)
    (sameShape : graph.shape? id = other.shape? id)
    (sameSeal : graph.isSealed id = true ↔ other.isSealed id = true) :
    graph.node? id = other.node? id := by
  rw [shape?, shape?] at sameShape
  rw [Bool.coe_iff_coe, isSealed, isSealed] at sameSeal
  cases first : graph.node? id with
  | none =>
      rw [first, Option.map_none] at sameShape
      exact (Option.map_eq_none_iff.mp sameShape.symm).symm
  | some node =>
      rw [first, Option.map_some] at sameShape
      obtain ⟨found, second, shapes⟩ := Option.map_eq_some_iff.mp sameShape.symm
      rw [first, second, Option.any_some, Option.any_some] at sameSeal
      rw [second]
      cases node
      cases found
      cases shapes
      cases sameSeal
      rfl

theorem eq_of_parts (graph other : Graph Criterion)
    (sameShape : ∀ id, graph.shape? id = other.shape? id)
    (sameSeal : ∀ id, graph.isSealed id = true ↔ other.isSealed id = true) : graph = other := by
  obtain ⟨nodes⟩ := graph
  obtain ⟨others⟩ := other
  refine congrArg Graph.mk (Array.ext_getElem? fun id => ?_)
  exact node?_eq_of_parts ⟨nodes⟩ ⟨others⟩ id (sameShape id) (sameSeal id)

theorem sealNodes_concat (graph : Graph Criterion) (ids : List NodeId) (id : NodeId) :
    graph.sealNodes (ids ++ [id]) = (graph.sealNodes ids).sealNode id :=
  List.foldl_concat ..

theorem sealNodes_append (graph : Graph Criterion) (first second : List NodeId) :
    graph.sealNodes (first ++ second) = (graph.sealNodes first).sealNodes second :=
  List.foldl_append ..

theorem sealNodes_congr (graph : Graph Criterion) (first second : List NodeId)
    (same : ∀ id, id ∈ first ↔ id ∈ second) : graph.sealNodes first = graph.sealNodes second := by
  apply eq_of_parts
  · intro id
    rw [shape?_sealNodes, shape?_sealNodes]
  · intro id
    rw [isSealed_sealNodes_iff, isSealed_sealNodes_iff, same id]

/-! ## What the calls do -/

theorem unfold_congr (graph other : Graph Criterion)
    (same : ∀ id, other.shape? id = graph.shape? id) (depth : Nat) (id : NodeId) :
    other.unfold depth id = graph.unfold depth id := by
  have everywhere (either : Graph Criterion) : either.IsClosed fun _ => True :=
    fun _ _ _ _ _ _ => trivial
  refine Option.ext fun rule => ⟨?_, ?_⟩
  · exact unfold_of_agree other graph _ (everywhere other) (fun id _ => (same id).symm) depth depth
      (Nat.le_refl depth) id trivial rule
  · exact unfold_of_agree graph other _ (everywhere graph) (fun id _ => same id) depth depth
      (Nat.le_refl depth) id trivial rule

/-- The labels of a rule are the root and those of the nodes that it refers to. -/
theorem unfold_labels (graph : Graph Criterion) (depth : Nat) (id : NodeId)
    (shape : Shape Criterion) (found : graph.shape? id = some shape) :
    (graph.unfold (depth + 1) id).map Rule.labels =
      (shape.children.mapM (graph.unfold depth)).map fun parts =>
        id :: parts.flatMap Rule.labels := by
  rw [unfold, found]
  cases shape with
  | leaf criterion => rfl
  | constant verdict => rfl
  | compound connective children =>
      simp only [Shape.children, Option.map_map]
      congr 1
      funext parts
      exact Rule.labels_eq_cons _
  | exclusive left right =>
      cases first : graph.unfold depth left <;> cases second : graph.unfold depth right <;>
        simp [Shape.children, first, second, Rule.labels]
  | negation operand =>
      cases below : graph.unfold depth operand <;> simp [Shape.children, below, Rule.labels]

/-- Every kind of node calls what it refers to, in order, and then seals itself. -/
theorem sealDown_succ (depth : Nat) (graph : Graph Criterion) (id : NodeId)
    (shape : Shape Criterion) (found : graph.shape? id = some shape) :
    sealDown (depth + 1) graph id =
      (shape.children.foldlM (sealDown depth) graph).map (·.sealNode id) := by
  rw [sealDown, found]
  cases shape with
  | leaf criterion => rfl
  | constant verdict => rfl
  | compound connective children => rfl
  | exclusive left right =>
      cases first : sealDown depth graph left with
      | none => simp [Shape.children, first]
      | some reached => simp [Shape.children, first]
  | negation operand => simp [Shape.children]

/-- Calls to nodes one after the other, each in the graph that the calls before it left. -/
theorem foldlM_sealDown (depth : Nat) (graph : Graph Criterion)
    (each : ∀ (reached : Graph Criterion) (id : NodeId), sealDown depth reached id =
      ((reached.unfold depth id).map Rule.labels).map reached.sealNodes)
    (ids : List NodeId) (reached : Graph Criterion)
    (same : ∀ id, reached.shape? id = graph.shape? id) :
    ids.foldlM (sealDown depth) reached =
      (ids.mapM (graph.unfold depth)).map fun parts =>
        reached.sealNodes (parts.flatMap Rule.labels) := by
  induction ids generalizing reached with
  | nil => rfl
  | cons id rest ih =>
      rw [List.foldlM_cons, List.mapM_cons, each, unfold_congr graph reached same]
      cases first : graph.unfold depth id with
      | none => rfl
      | some part =>
          have further : ∀ other, (reached.sealNodes part.labels).shape? other =
              graph.shape? other := by
            intro other
            rw [shape?_sealNodes, same]
          have onward := ih (reached.sealNodes part.labels) further
          cases others : rest.mapM (graph.unfold depth) with
          | none => simpa [others] using onward
          | some parts => simpa [others, sealNodes_append] using onward

/-- The calls go as deep as the rule, and seal its labels. -/
theorem sealDown_eq (depth : Nat) (graph : Graph Criterion) (id : NodeId) :
    sealDown depth graph id = ((graph.unfold depth id).map Rule.labels).map graph.sealNodes := by
  induction depth generalizing graph id with
  | zero => rfl
  | succ depth ih =>
      cases found : graph.shape? id with
      | none =>
          rw [sealDown, unfold, found]
          rfl
      | some shape =>
          rw [sealDown_succ depth graph id shape found, unfold_labels graph depth id shape found,
            foldlM_sealDown depth graph ih shape.children graph fun _ => rfl]
          cases shape.children.mapM (graph.unfold depth) with
          | none => rfl
          | some parts =>
              -- a node is sealed after those below it, and its label stands in front of theirs
              refine congrArg some ((sealNodes_concat graph _ id).symm.trans ?_)
              exact sealNodes_congr graph _ _ fun other => by simp [or_comm]

theorem sealRule_of_rule? (graph : Graph Criterion) (root : NodeId)
    (rule : Rule NodeId Criterion) (unfolded : graph.rule? root = some rule) :
    graph.sealRule root = graph.sealNodes rule.labels := by
  rw [sealRule, unfolded]

/-- As many calls in calls as there are nodes are enough. -/
theorem sealDown_size (graph : Graph Criterion) (root : NodeId)
    (acyclic : graph.IsAcyclicFrom root) :
    sealDown graph.nodes.size graph root = some (graph.sealRule root) := by
  obtain ⟨rule, unfolded⟩ := (rule?_isSome_iff graph root).mpr acyclic
  rw [sealRule_of_rule? graph root rule unfolded, sealDown_eq]
  rw [rule?] at unfolded
  rw [unfolded]
  rfl

/-- The calls end exactly where nothing is circular. -/
theorem sealDown_ends_iff (graph later : Graph Criterion) (root : NodeId) :
    (∃ depth, sealDown depth graph root = some later) ↔
      graph.IsAcyclicFrom root ∧ later = graph.sealRule root := by
  constructor
  · rintro ⟨depth, ended⟩
    rw [sealDown_eq, Option.map_map] at ended
    obtain ⟨rule, unfolded, rfl⟩ := Option.map_eq_some_iff.mp ended
    have labelled := label_of_unfold graph depth root rule unfolded
    have held := holds_of_unfold graph depth root rule unfolded
    have read := (rule?_eq_some_iff graph root rule).mpr ⟨labelled, held⟩
    exact ⟨(rule?_isSome_iff graph root).mp ⟨rule, read⟩,
      (sealRule_of_rule? graph root rule read).symm⟩
  · rintro ⟨acyclic, rfl⟩
    exact ⟨graph.nodes.size, sealDown_size graph root acyclic⟩

/-! ## One root and several -/

theorem size_sealRule (graph : Graph Criterion) (root : NodeId) :
    (graph.sealRule root).nodes.size = graph.nodes.size := by
  unfold sealRule
  split
  · exact size_sealNodes graph _
  · rfl

theorem isAcyclicFrom_sealRule (graph : Graph Criterion) (sealed root : NodeId)
    (acyclic : graph.IsAcyclicFrom root) : (graph.sealRule sealed).IsAcyclicFrom root := by
  obtain ⟨rule, read⟩ := (rule?_isSome_iff graph root).mpr acyclic
  obtain ⟨labelled, held⟩ := (rule?_eq_some_iff graph root rule).mp read
  refine (rule?_isSome_iff _ root).mp ⟨rule, (rule?_eq_some_iff _ root rule).mpr ⟨labelled, ?_⟩⟩
  exact (holds_sealRule_iff graph sealed rule).mpr held

theorem sealRule_below (graph : Graph Criterion) (root id : NodeId)
    (acyclic : graph.IsAcyclicFrom root) (path : graph.Reaches root id) :
    (graph.sealRule root).sealRule id = graph.sealRule root := by
  have belowAcyclic : graph.IsAcyclicFrom id :=
    ⟨fun other onward => acyclic.complete other (reaches_trans graph root id other path onward),
      fun other onward => acyclic.no_return other (reaches_trans graph root id other path onward)⟩
  apply eq_of_parts
  · exact shape?_sealRule _ id
  · intro other
    rw [isSealed_sealRule_iff _ id (isAcyclicFrom_sealRule graph root id belowAcyclic),
      reaches_sealRule_iff, or_iff_left_iff_imp]
    intro onward
    exact (isSealed_sealRule_iff graph root acyclic other).mpr
      (.inr (reaches_trans graph root id other path onward))

def sealRules (graph : Graph Criterion) (roots : List NodeId) : Graph Criterion :=
  roots.foldl sealRule graph

theorem sealRules_spec (graph : Graph Criterion) (roots : List NodeId)
    (acyclic : ∀ root ∈ roots, graph.IsAcyclicFrom root) :
    roots.foldlM (sealDown graph.nodes.size) graph = some (graph.sealRules roots) ∧
    (∀ id, (graph.sealRules roots).shape? id = graph.shape? id) ∧
    ∀ id, (graph.sealRules roots).isSealed id = true ↔
      graph.isSealed id = true ∨ ∃ root ∈ roots, graph.Reaches root id := by
  induction roots generalizing graph with
  | nil => simp [sealRules]
  | cons root rest ih =>
      obtain ⟨rootAcyclic, restAcyclic⟩ := List.forall_mem_cons.mp acyclic
      obtain ⟨ended, shapes, seals⟩ := ih (graph.sealRule root) fun other member =>
        isAcyclicFrom_sealRule graph root other (restAcyclic other member)
      have step : graph.sealRules (root :: rest) = (graph.sealRule root).sealRules rest := rfl
      rw [step]
      refine ⟨?_, ?_, ?_⟩
      · rw [List.foldlM_cons, sealDown_size graph root rootAcyclic]
        rwa [size_sealRule] at ended
      · intro id
        rw [shapes, shape?_sealRule]
      · intro id
        rw [seals, isSealed_sealRule_iff graph root rootAcyclic]
        simp only [reaches_sealRule_iff, List.exists_mem_cons_iff, or_assoc]

/-- A call to seal a node ends exactly when nothing below the node is circular, and is what sealing
its rule is.  Then a node is sealed if it was or if it is reached from the root; kinds, children and
operands, and all nodes out of reach, stay as they are, and to seal the root again, or a node below
it, changes nothing.  Of several roots, the order does not matter. -/
theorem sealing_marks_reached_nodes (graph : Graph Criterion) :
    (∀ root later, (∃ depth, sealDown depth graph root = some later) ↔
      graph.IsAcyclicFrom root ∧ later = graph.sealRule root) ∧
    (∀ root, graph.IsAcyclicFrom root →
      (∀ id, (graph.sealRule root).isSealed id = true ↔
        graph.isSealed id = true ∨ graph.Reaches root id) ∧
      (graph.sealRule root).nodes.size = graph.nodes.size ∧
      (∀ id, (graph.sealRule root).shape? id = graph.shape? id) ∧
      (∀ id, ¬graph.Reaches root id → (graph.sealRule root).node? id = graph.node? id) ∧
      ∀ id, graph.Reaches root id → (graph.sealRule root).sealRule id = graph.sealRule root) ∧
    ∀ roots others : List NodeId, roots.Perm others →
      (∀ root ∈ roots, graph.IsAcyclicFrom root) →
      (∃ depth, roots.foldlM (sealDown depth) graph = some (graph.sealRules roots)) ∧
      graph.sealRules others = graph.sealRules roots := by
  refine ⟨fun root later => sealDown_ends_iff graph later root, ?_, ?_⟩
  · intro root acyclic
    have seals := isSealed_sealRule_iff graph root acyclic
    refine ⟨seals, size_sealRule graph root, shape?_sealRule graph root, ?_, ?_⟩
    · intro id unreached
      apply node?_eq_of_parts
      · exact shape?_sealRule graph root id
      · rw [seals id, or_iff_left unreached]
    · exact fun id path => sealRule_below graph root id acyclic path
  · intro roots others order acyclic
    obtain ⟨ended, shapes, seals⟩ := sealRules_spec graph roots acyclic
    obtain ⟨-, otherShapes, otherSeals⟩ := sealRules_spec graph others fun root member =>
      acyclic root (order.mem_iff.mpr member)
    refine ⟨⟨graph.nodes.size, ended⟩, ?_⟩
    apply eq_of_parts
    · intro id
      rw [otherShapes, shapes]
    · intro id
      simp only [otherSeals, seals, order.mem_iff]

end

/-- A conjunction of a flag, its negation and another flag, and the exclusive disjunction of the
conjunction and the negation.  Only the negation is sealed.  A disjunction stands apart. -/
def sharedNegation : Graph Criterion where
  nodes :=
    #[⟨.leaf (.flagged "a"), false⟩, ⟨.leaf (.flagged "b"), false⟩, ⟨.negation 0, true⟩,
      ⟨.compound .conjunction [2, 1, 0], false⟩, ⟨.exclusive 3 2, false⟩,
      ⟨.compound .disjunction [1], false⟩]

theorem flag_sealed_below_sealed_negation :
    sharedNegation.IsAcyclicFrom 4 ∧ sharedNegation.Reaches 2 0 ∧
      sharedNegation.isSealed 2 = true ∧ sharedNegation.isSealed 0 = false ∧
      (∃ depth, sealDown depth sharedNegation 4 = some (sharedNegation.sealRule 4)) ∧
      (sharedNegation.sealRule 4).isSealed 0 = true ∧ ¬sharedNegation.Reaches 4 5 ∧
      (sharedNegation.sealRule 4).sealRule 2 = sharedNegation.sealRule 4 ∧
      sharedNegation.sealRules [5, 4] = sharedNegation.sealRules [4, 5] := by
  obtain ⟨ends, marks, inAnyOrder⟩ := sealing_marks_reached_nodes sharedNegation
  have acyclic : sharedNegation.IsAcyclicFrom 4 := (rule?_isSome_iff _ 4).mp ⟨_, rfl⟩
  have apart : sharedNegation.IsAcyclicFrom 5 := (rule?_isSome_iff _ 5).mp ⟨_, rfl⟩
  have negation : sharedNegation.Reaches 4 2 :=
    reaches_child _ 4 2 (.exclusive 3 2) rfl (by simp [Shape.children])
  have flag : sharedNegation.Reaches 2 0 :=
    reaches_child _ 2 0 (.negation 0) rfl (by simp [Shape.children])
  obtain ⟨seals, -, -, -, again⟩ := marks 4 acyclic
  have unreached : ¬sharedNegation.Reaches 4 5 := by
    intro path
    have isSealed := (seals 5).mpr (.inr path)
    cases isSealed
  refine ⟨acyclic, flag, rfl, rfl, (ends 4 _).mpr ⟨acyclic, rfl⟩, ?_, unreached,
    again 2 negation, ?_⟩
  · exact (seals 0).mpr (.inr (reaches_trans _ 4 2 0 negation flag))
  · refine (inAnyOrder [4, 5] [5, 4] (.swap 5 4 []) ?_).2
    simp [acyclic, apart]

end Graph

end Eligibility
