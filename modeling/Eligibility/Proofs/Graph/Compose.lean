import Eligibility.Proofs.Graph.Acyclic
import Eligibility.Proofs.Rule.Algebra

/-!
# What a composition makes

A composition changes one node: the receiver, when it is extended, or else a new one.  No other
rule is affected unless the changed node is part of it, and so the rule that comes of a composition
is made of the rules that the operands had before.
-/

set_option autoImplicit false

namespace Eligibility

variable {Criterion : Type}

namespace Rule

theorem shape_of_joins (connective : Connective) (rule : Rule NodeId Criterion)
    (isJoined : rule.joins connective = true) :
    rule.shape = .compound connective (rule.parts.map label) := by
  obtain ⟨root, children, rfl⟩ := (joins_iff connective rule).mp isJoined
  rfl

theorem joins_of_shape (connective : Connective) (rule : Rule NodeId Criterion)
    (children : List NodeId) (sameShape : rule.shape = .compound connective children) :
    rule.joins connective = true := by
  cases rule <;> simp_all [shape, joins]

end Rule

namespace Graph

/-! ## The clauses of nodes -/

def group? (graph : Graph Criterion) (connective : Connective) (id : NodeId) :
    Option (List NodeId) :=
  match graph.shape? id with
  | some (.compound kind children) => if kind = connective then some children else none
  | _ => none

theorem group?_eq_some_iff (graph : Graph Criterion) (connective : Connective) (id : NodeId)
    (children : List NodeId) :
    graph.group? connective id = some children ↔
      graph.shape? id = some (.compound connective children) := by
  unfold group?
  split
  next kind others found => by_cases same : kind = connective <;> simp [found, same]
  next notCompound => simpa using notCompound connective children

theorem clauses_eq (graph : Graph Criterion) (connective : Connective) (id : NodeId) :
    graph.clauses connective id = (graph.group? connective id).getD [id] := by
  unfold clauses group?
  cases graph.shape? id with
  | none => rfl
  | some shape =>
      cases shape with
      | compound kind children => by_cases same : kind = connective <;> simp [same]
      | _ => rfl

theorem group?_of_holds (graph : Graph Criterion) (connective : Connective)
    (rule : Rule NodeId Criterion) (held : graph.Holds rule) :
    graph.group? connective rule.label =
      if rule.joins connective then some (rule.parts.map Rule.label) else none := by
  have found := shape?_of_holds graph rule held
  cases isJoined : rule.joins connective with
  | true =>
      rw [Rule.shape_of_joins connective rule isJoined] at found
      exact (group?_eq_some_iff ..).mpr found
  | false =>
      cases grouped : graph.group? connective rule.label with
      | none => rfl
      | some children =>
          rw [group?_eq_some_iff, found, Option.some.injEq] at grouped
          rw [Rule.joins_of_shape connective rule children grouped] at isJoined
          cases isJoined

theorem clauses_of_holds (graph : Graph Criterion) (connective : Connective)
    (rule : Rule NodeId Criterion) (held : graph.Holds rule) :
    graph.clauses connective rule.label = (rule.clauses connective).map Rule.label := by
  rw [clauses_eq, group?_of_holds graph connective rule held]
  cases isJoined : rule.joins connective <;> simp [Rule.clauses, isJoined]

theorem not_joins_of_group? (graph : Graph Criterion) (connective : Connective)
    (rule : Rule NodeId Criterion) (held : graph.Holds rule)
    (alone : graph.group? connective rule.label = none) : rule.joins connective = false := by
  rw [group?_of_holds graph connective rule held] at alone
  simpa using alone

theorem holds_of_clauses (graph : Graph Criterion) (connective : Connective) (id : NodeId)
    (parts : List (Rule NodeId Criterion)) (held : ∀ part ∈ parts, graph.Holds part)
    (labels : parts.map Rule.label = graph.clauses connective id) :
    ∃ rule, rule.label = id ∧ graph.Holds rule ∧ rule.clauses connective = parts := by
  rw [clauses_eq] at labels
  cases grouped : graph.group? connective id with
  | some children =>
      rw [grouped, Option.getD_some] at labels
      refine ⟨.compound id connective parts, rfl, .node _ ?_ held, Rule.clauses_compound ..⟩
      rw [Rule.shape, labels]
      exact (group?_eq_some_iff ..).mp grouped
  | none =>
      rw [grouped, Option.getD_none] at labels
      obtain ⟨rule, none, rfl, rfl, nothing⟩ := List.map_eq_cons_iff.mp labels
      obtain rfl := List.map_eq_nil_iff.mp nothing
      have ruleHeld := held rule (List.mem_singleton_self rule)
      exact ⟨rule, rfl, ruleHeld, Rule.clauses_of_not_joins connective rule
        (not_joins_of_group? graph connective rule ruleHeld grouped)⟩

/-! ## One composition -/

def IsOpen (graph : Graph Criterion) (connective : Connective) (id : NodeId) : Prop :=
  ∃ children, graph.node? id = some ⟨.compound connective children, false⟩

def joinedChildren (graph : Graph Criterion) (connective : Connective)
    (receiver other : NodeId) : List NodeId :=
  match graph.group? connective receiver with
  | some children => children ++ graph.clauses connective other
  | none => [receiver, other]

theorem node?_size (graph : Graph Criterion) : graph.node? graph.nodes.size = none := by
  simp [node?]

theorem allocate_changes (graph : Graph Criterion) (shape : Shape Criterion) :
    (graph.allocate shape).2.node? (graph.allocate shape).1 = some ⟨shape, false⟩ ∧
      (∀ id, id ≠ (graph.allocate shape).1 →
        (graph.allocate shape).2.node? id = graph.node? id) ∧
      graph.node? (graph.allocate shape).1 = none := by
  refine ⟨?_, ?_, node?_size graph⟩
  · rw [node?_allocate]
    exact if_pos rfl
  · intro id differs
    rw [node?_allocate]
    exact if_neg differs

theorem shape?_of_node? (graph : Graph Criterion) (id : NodeId) (shape : Shape Criterion)
    (isSealed : Bool) (found : graph.node? id = some ⟨shape, isSealed⟩) :
    graph.shape? id = some shape := by
  simp [shape?, found]

/-- A composition extends an open receiver with the connective, and makes a node otherwise. -/
theorem join_cases (graph : Graph Criterion) (connective : Connective) (receiver other : NodeId) :
    graph.IsOpen connective receiver ∧ graph.join connective receiver other =
        (receiver, graph.replaceChildren connective receiver
          (graph.joinedChildren connective receiver other)) ∨
      ¬graph.IsOpen connective receiver ∧ graph.join connective receiver other =
        graph.allocate (.compound connective (graph.joinedChildren connective receiver other)) := by
  unfold join
  split
  next kind children isSealed found =>
    have shapeFound := shape?_of_node? graph receiver _ isSealed found
    by_cases same : kind = connective
    · subst same
      have extended : graph.joinedChildren kind receiver other =
          children ++ graph.clauses kind other := by
        simp [joinedChildren, group?, shapeFound]
      cases isSealed with
      | true =>
          refine .inr ⟨?_, by simp [extended]⟩
          rintro ⟨others, isOpen⟩
          simp [found] at isOpen
      | false => exact .inl ⟨⟨children, found⟩, by simp [extended]⟩
    · refine .inr ⟨?_, by simp [joinedChildren, group?, shapeFound, same]⟩
      rintro ⟨others, isOpen⟩
      simp [found, same] at isOpen
  next notCompound =>
    refine .inr ⟨fun ⟨children, isOpen⟩ => notCompound connective children false isOpen, ?_⟩
    cases grouped : graph.group? connective receiver with
    | some children =>
        obtain ⟨⟨shape, isSealed⟩, nodeFound, same⟩ :=
          node?_of_shape? graph receiver _ ((group?_eq_some_iff ..).mp grouped)
        change shape = _ at same
        subst same
        exact absurd nodeFound (notCompound connective children isSealed)
    | none => simp [joinedChildren, grouped]

/-- One node is changed by a composition, and all others stay as they are. -/
theorem join_changes (graph : Graph Criterion) (connective : Connective)
    (receiver other made : NodeId) (later : Graph Criterion)
    (composed : graph.join connective receiver other = (made, later)) :
    later.node? made = some
        ⟨.compound connective (graph.joinedChildren connective receiver other), false⟩ ∧
      (∀ id, id ≠ made → later.node? id = graph.node? id) ∧
      (made = receiver ∧ graph.IsOpen connective receiver ∨
        ¬graph.IsOpen connective receiver ∧ graph.node? made = none) := by
  rcases join_cases graph connective receiver other with ⟨isOpen, extended⟩ | ⟨isClosed, makes⟩
  · obtain ⟨rfl, rfl⟩ := Prod.mk.inj (composed.symm.trans extended)
    obtain ⟨children, found⟩ := isOpen
    refine ⟨?_, fun id differs => ?_, .inl ⟨rfl, children, found⟩⟩
    · rw [replaceChildren, node?_modify, if_pos rfl, found]
      rfl
    · rw [replaceChildren, node?_modify, if_neg differs]
  · rw [makes] at composed
    obtain ⟨here, elsewhere, fresh⟩ := allocate_changes graph
      (.compound connective (graph.joinedChildren connective receiver other))
    rw [composed] at here elsewhere fresh
    exact ⟨here, elsewhere, .inr ⟨isClosed, fresh⟩⟩

theorem holds_iff_of_changed (graph later : Graph Criterion) (made : NodeId)
    (elsewhere : ∀ id, id ≠ made → later.node? id = graph.node? id)
    (rule : Rule NodeId Criterion) (untouched : made ∉ rule.labels) :
    later.Holds rule ↔ graph.Holds rule := by
  have sameShape : ∀ id ∈ rule.labels, later.shape? id = graph.shape? id := by
    intro id inside
    have differs : id ≠ made := fun same => untouched (same ▸ inside)
    rw [shape?, shape?, elsewhere id differs]
  constructor
  · intro held
    exact holds_of_agree later graph rule held fun id inside => (sameShape id inside).symm
  · intro held
    exact holds_of_agree graph later rule held sameShape

/-- Rules for the children of the node that comes of a composition are those of two rules for the
operands. -/
theorem joined_of_parts (graph : Graph Criterion) (connective : Connective)
    (receiver other : NodeId) (parts : List (Rule NodeId Criterion))
    (held : ∀ part ∈ parts, graph.Holds part)
    (labels : parts.map Rule.label = graph.joinedChildren connective receiver other) :
    ∃ first second, first.label = receiver ∧ graph.Holds first ∧
      second.label = other ∧ graph.Holds second ∧
      (∀ label, Rule.joined label connective first second = .compound label connective parts) ∧
      ∀ label, (∀ part ∈ parts, label ∉ part.labels) → other ≠ label → label ∉ second.labels := by
  unfold joinedChildren at labels
  split at labels
  next children grouped =>
    -- the receiver had the clauses in front, whether it is still there or was extended
    obtain ⟨front, back, rfl, frontLabels, backLabels⟩ := List.map_eq_append_iff.mp labels
    obtain ⟨second, rfl, secondHeld, rfl⟩ := holds_of_clauses graph connective other back
      (fun part member => held part (List.mem_append_right front member)) backLabels
    refine ⟨.compound receiver connective front, second, rfl, .node _ ?_ ?_, rfl, secondHeld,
      fun label => ?_, fun label untouched differs => ?_⟩
    · rw [Rule.shape, frontLabels]
      exact (group?_eq_some_iff ..).mp grouped
    · exact fun part member => held part (List.mem_append_left _ member)
    · simp [Rule.joined, Rule.joins, Rule.parts]
    · exact Rule.not_mem_labels_of_clauses connective second label differs
        fun clause member => untouched clause (List.mem_append_right front member)
  next alone =>
    obtain ⟨first, rest, rfl, rfl, single⟩ := List.map_eq_cons_iff.mp labels
    obtain ⟨second, none, rfl, rfl, nothing⟩ := List.map_eq_cons_iff.mp single
    obtain rfl := List.map_eq_nil_iff.mp nothing
    have firstHeld := held first (by simp)
    have notJoined := not_joins_of_group? graph connective first firstHeld alone
    refine ⟨first, second, rfl, firstHeld, rfl, held second (by simp), fun label => ?_,
      fun label untouched _ => untouched second (by simp)⟩
    simp [Rule.joined, notJoined]

/-- The rule that comes of a composition joins the rules that the operands had before. -/
theorem joined_of_join (graph : Graph Criterion) (connective : Connective)
    (receiver other made : NodeId) (later : Graph Criterion)
    (composed : graph.join connective receiver other = (made, later))
    (result : Rule NodeId Criterion) (held : later.Holds result) (isMade : result.label = made) :
    ∃ first second, first.label = receiver ∧ graph.Holds first ∧
      second.label = other ∧ graph.Holds second ∧
      result = Rule.joined made connective first second ∧
      (other ≠ made → made ∉ second.labels) := by
  obtain ⟨here, elsewhere, -⟩ := join_changes graph connective receiver other made later composed
  have found := shape?_of_holds later result held
  rw [isMade, shape?_of_node? later made _ false here, Option.some.injEq] at found
  obtain ⟨label, parts, rfl⟩ :=
    (Rule.joins_iff connective result).mp (Rule.joins_of_shape connective result _ found.symm)
  simp only [Rule.shape, Shape.compound.injEq, true_and] at found
  change label = made at isMade
  subst isMade
  -- the changed node is the root and not below it, so the parts are as they were
  have untouched : ∀ part ∈ parts, label ∉ part.labels :=
    fun part member => root_not_below later _ part held member
  have partsHeld : ∀ part ∈ parts, graph.Holds part := fun part member =>
    (holds_iff_of_changed graph later label elsewhere part (untouched part member)).mp
      (holds_of_part later _ part held member)
  obtain ⟨first, second, isFirst, firstHeld, isSecond, secondHeld, same, secondUntouched⟩ :=
    joined_of_parts graph connective receiver other parts partsHeld found.symm
  exact ⟨first, second, isFirst, firstHeld, isSecond, secondHeld, (same label).symm,
    secondUntouched label untouched⟩

end Graph

end Eligibility
