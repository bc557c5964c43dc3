import Eligibility.Proofs.Graph.Unfold
import Mathlib.Data.Finset.Card
import Mathlib.Data.Finset.Range

/-!
# Rules held by a graph

A graph holds a rule when every node of the rule stands in the graph with the same kind and the
same children.  The depth to which rules are read off a graph is no restriction: exactly the rules
that the graph holds are read off, and a node has one exactly when nothing below it is circular.
-/

set_option autoImplicit false

namespace Eligibility

variable {Criterion : Type}

namespace Rule

def shape : Rule NodeId Criterion → Shape Criterion
  | .leaf _ criterion => .leaf criterion
  | .constant _ verdict => .constant verdict
  | .compound _ connective children => .compound connective (children.map label)
  | .exclusive _ left right => .exclusive left.label right.label
  | .negation _ operand => .negation operand.label

@[simp]
theorem shape_children (rule : Rule NodeId Criterion) :
    rule.shape.children = rule.parts.map label := by
  cases rule <;> rfl

theorem exists_of_shape (id : NodeId) (shape : Shape Criterion)
    (parts : List (Rule NodeId Criterion)) (children : parts.map label = shape.children) :
    ∃ rule : Rule NodeId Criterion,
      rule.label = id ∧ rule.shape = shape ∧ rule.parts = parts := by
  cases shape with
  | leaf criterion =>
      have none : parts = [] := List.map_eq_nil_iff.mp children
      exact ⟨.leaf id criterion, rfl, rfl, none.symm⟩
  | constant verdict =>
      have none : parts = [] := List.map_eq_nil_iff.mp children
      exact ⟨.constant id verdict, rfl, rfl, none.symm⟩
  | compound connective ids =>
      exact ⟨.compound id connective parts, rfl, by rw [Rule.shape, children]; rfl, rfl⟩
  | exclusive left right =>
      obtain ⟨first, rest, rfl, rfl, single⟩ := List.map_eq_cons_iff.mp children
      obtain ⟨second, none, rfl, rfl, nothing⟩ := List.map_eq_cons_iff.mp single
      obtain rfl := List.map_eq_nil_iff.mp nothing
      exact ⟨.exclusive id first second, rfl, rfl, rfl⟩
  | negation operand =>
      obtain ⟨only, none, rfl, rfl, nothing⟩ := List.map_eq_cons_iff.mp children
      obtain rfl := List.map_eq_nil_iff.mp nothing
      exact ⟨.negation id only, rfl, rfl, rfl⟩

theorem labels_sublist_of_part (rule part : Rule NodeId Criterion) (member : part ∈ rule.parts) :
    (part.labels).Sublist (rule.parts.flatMap labels) := by
  rw [List.flatMap_def]
  exact List.sublist_flatten_of_mem (List.mem_map_of_mem member)

theorem length_labels_of_part (rule part : Rule NodeId Criterion) (member : part ∈ rule.parts) :
    part.labels.length < rule.labels.length := by
  have shorter := (labels_sublist_of_part rule part member).length_le
  rw [labels_eq_cons rule, List.length_cons]
  omega

end Rule

namespace Graph

/-- The graph has every node of the rule, of its kind and with its children. -/
inductive Holds (graph : Graph Criterion) : Rule NodeId Criterion → Prop
  | node (rule : Rule NodeId Criterion) (found : graph.shape? rule.label = some rule.shape)
      (below : ∀ part ∈ rule.parts, Holds graph part) : Holds graph rule

theorem shape?_of_holds (graph : Graph Criterion) (rule : Rule NodeId Criterion)
    (held : graph.Holds rule) : graph.shape? rule.label = some rule.shape := by
  cases held with
  | node rule found below => exact found

theorem holds_of_part (graph : Graph Criterion) (rule part : Rule NodeId Criterion)
    (held : graph.Holds rule) (member : part ∈ rule.parts) : graph.Holds part := by
  cases held with
  | node rule found below => exact below part member

theorem holds_of_agree (graph other : Graph Criterion) (rule : Rule NodeId Criterion)
    (held : graph.Holds rule)
    (agree : ∀ id ∈ rule.labels, other.shape? id = graph.shape? id) : other.Holds rule := by
  induction held with
  | node rule found below ih =>
      refine .node rule ?_ fun part member => ih part member ?_
      · rw [agree rule.label rule.label_mem_labels, found]
      · exact fun id inside => agree id (Rule.labels_of_part rule part member id inside)

/-! ## Reading off at a depth -/

theorem mapM_labels (image : NodeId → Option (Rule NodeId Criterion))
    (parts : List (Rule NodeId Criterion)) (read : ∀ part ∈ parts, image part.label = some part) :
    (parts.map Rule.label).mapM image = some parts := by
  induction parts with
  | nil => rfl
  | cons part rest ih =>
      obtain ⟨here, others⟩ := List.forall_mem_cons.mp read
      simp [here, ih others]

theorem labels_of_mapM (image : NodeId → Option (Rule NodeId Criterion)) (ids : List NodeId)
    (labelled : ∀ id rule, image id = some rule → rule.label = id)
    (parts : List (Rule NodeId Criterion)) (mapped : ids.mapM image = some parts) :
    parts.map Rule.label = ids := by
  induction ids generalizing parts with
  | nil =>
      cases mapped
      rfl
  | cons id rest ih =>
      rw [List.mapM_cons] at mapped
      obtain ⟨part, here, later⟩ := Option.bind_eq_some_iff.mp mapped
      obtain ⟨others, restMapped, same⟩ := Option.bind_eq_some_iff.mp later
      cases same
      rw [List.map_cons, labelled id part here, ih others restMapped]

theorem shape?_of_unfold (graph : Graph Criterion) (depth : Nat) (id : NodeId)
    (rule : Rule NodeId Criterion) (unfolded : graph.unfold (depth + 1) id = some rule) :
    graph.shape? id = some rule.shape := by
  have labelled := label_of_unfold graph depth
  cases found : graph.shape? id with
  | none => simp [unfold, found] at unfolded
  | some shape =>
      rw [unfold, found] at unfolded
      cases shape with
      | leaf criterion =>
          cases unfolded
          rfl
      | constant verdict =>
          cases unfolded
          rfl
      | compound connective children =>
          obtain ⟨below, mapped, rfl⟩ := Option.map_eq_some_iff.mp unfolded
          rw [Rule.shape, labels_of_mapM _ children labelled below mapped]
      | exclusive left right =>
          obtain ⟨first, leftRule, later⟩ := Option.bind_eq_some_iff.mp unfolded
          obtain ⟨second, rightRule, rfl⟩ := Option.map_eq_some_iff.mp later
          rw [Rule.shape, labelled left first leftRule, labelled right second rightRule]
      | negation operand =>
          obtain ⟨below, operandRule, rfl⟩ := Option.map_eq_some_iff.mp unfolded
          rw [Rule.shape, labelled operand below operandRule]

theorem holds_of_unfold (graph : Graph Criterion) (depth : Nat) (id : NodeId)
    (rule : Rule NodeId Criterion) (unfolded : graph.unfold depth id = some rule) :
    graph.Holds rule := by
  induction depth generalizing id rule with
  | zero => cases unfolded
  | succ depth ih =>
      obtain ⟨sameRoot, _, _, fromChildren, _⟩ := parts_of_unfold graph depth id rule unfolded
      refine .node rule ?_ fun part member => ?_
      · rw [sameRoot]
        exact shape?_of_unfold graph depth id rule unfolded
      · obtain ⟨child, -, partUnfolded⟩ := fromChildren part member
        exact ih child part partUnfolded

theorem unfold_of_parts (graph : Graph Criterion) (depth : Nat) (rule : Rule NodeId Criterion)
    (found : graph.shape? rule.label = some rule.shape)
    (read : ∀ part ∈ rule.parts, graph.unfold depth part.label = some part) :
    graph.unfold (depth + 1) rule.label = some rule := by
  rw [unfold, found]
  cases rule with
  | leaf label criterion => rfl
  | constant label verdict => rfl
  | compound label connective children =>
      change ((children.map Rule.label).mapM (graph.unfold depth)).map
        (Rule.compound label connective) = _
      rw [mapM_labels _ children read]
      rfl
  | exclusive label left right =>
      have first := read left (by simp [Rule.parts])
      have second := read right (by simp [Rule.parts])
      change ((graph.unfold depth left.label).bind fun below =>
        (graph.unfold depth right.label).map (Rule.exclusive label below)) = _
      rw [first, second]
      rfl
  | negation label operand =>
      have below := read operand (by simp [Rule.parts])
      change (graph.unfold depth operand.label).map (Rule.negation label) = _
      rw [below]
      rfl

theorem unfold_of_holds (graph : Graph Criterion) (rule : Rule NodeId Criterion)
    (held : graph.Holds rule) (depth : Nat) (enough : rule.labels.length ≤ depth) :
    graph.unfold depth rule.label = some rule := by
  induction held generalizing depth with
  | node rule found below ih =>
      cases depth with
      | zero =>
          rw [Rule.labels_eq_cons, List.length_cons] at enough
          omega
      | succ depth =>
          refine unfold_of_parts graph depth rule found fun part member => ih part member depth ?_
          have shorter := Rule.length_labels_of_part rule part member
          omega

theorem holds_unique (graph : Graph Criterion) (first second : Rule NodeId Criterion)
    (firstHeld : graph.Holds first) (secondHeld : graph.Holds second)
    (sameLabel : first.label = second.label) : first = second := by
  have firstRead := unfold_of_holds graph first firstHeld
    (first.labels.length + second.labels.length) (by omega)
  have secondRead := unfold_of_holds graph second secondHeld
    (first.labels.length + second.labels.length) (by omega)
  rw [sameLabel, secondRead] at firstRead
  exact (Option.some.inj firstRead).symm

/-! ## Labels -/

theorem holds_below (graph : Graph Criterion) (rule : Rule NodeId Criterion)
    (held : graph.Holds rule) (id : NodeId) (member : id ∈ rule.labels) :
    ∃ below, graph.Holds below ∧ below.label = id ∧ (below.labels).Sublist rule.labels := by
  induction held with
  | node rule found below ih =>
      rw [Rule.labels_eq_cons, List.mem_cons] at member
      rcases member with rfl | inParts
      · exact ⟨rule, .node rule found below, rfl, List.Sublist.refl _⟩
      · obtain ⟨part, partMember, inside⟩ := List.mem_flatMap.mp inParts
        obtain ⟨deeper, deeperHeld, sameLabel, sublist⟩ := ih part partMember inside
        refine ⟨deeper, deeperHeld, sameLabel, sublist.trans ?_⟩
        rw [Rule.labels_eq_cons rule]
        exact (Rule.labels_sublist_of_part rule part partMember).trans (List.sublist_cons_self _ _)

theorem root_not_below (graph : Graph Criterion) (rule part : Rule NodeId Criterion)
    (held : graph.Holds rule) (member : part ∈ rule.parts) : rule.label ∉ part.labels := by
  intro inside
  have partHeld := holds_of_part graph rule part held member
  obtain ⟨below, belowHeld, sameLabel, sublist⟩ :=
    holds_below graph part partHeld rule.label inside
  -- the rule below would be the rule itself, which has more labels than its part
  obtain rfl := holds_unique graph below rule belowHeld held sameLabel
  have shorter := Rule.length_labels_of_part below part member
  have longer := sublist.length_le
  omega

theorem label_lt_size (graph : Graph Criterion) (rule : Rule NodeId Criterion)
    (held : graph.Holds rule) (id : NodeId) (member : id ∈ rule.labels) :
    id < graph.nodes.size := by
  obtain ⟨below, belowHeld, rfl, -⟩ := holds_below graph rule held id member
  obtain ⟨node, found, -⟩ :=
    node?_of_shape? graph below.label below.shape (shape?_of_holds graph below belowHeld)
  exact (node?_isSome_iff graph below.label).mp ⟨node, found⟩

theorem unfold_card_of_holds (graph : Graph Criterion) (rule : Rule NodeId Criterion)
    (held : graph.Holds rule) (depth : Nat) (enough : rule.labels.toFinset.card ≤ depth) :
    graph.unfold depth rule.label = some rule := by
  induction held generalizing depth with
  | node rule found below ih =>
      have rootInside : rule.label ∈ rule.labels.toFinset :=
        List.mem_toFinset.mpr rule.label_mem_labels
      cases depth with
      | zero =>
          have positive := Finset.card_pos.mpr ⟨rule.label, rootInside⟩
          omega
      | succ depth =>
          refine unfold_of_parts graph depth rule found fun part member => ih part member depth ?_
          -- labels can occur twice in a part, so their number says nothing about the nodes
          have smaller : part.labels.toFinset.card < rule.labels.toFinset.card := by
            apply Finset.card_lt_card
            rw [Finset.ssubset_iff_of_subset fun id inside =>
              List.mem_toFinset.mpr
                (Rule.labels_of_part rule part member id (List.mem_toFinset.mp inside))]
            refine ⟨rule.label, rootInside, fun inside => ?_⟩
            exact root_not_below graph rule part (.node rule found below) member
              (List.mem_toFinset.mp inside)
          omega

theorem rule?_eq_some_iff (graph : Graph Criterion) (id : NodeId) (rule : Rule NodeId Criterion) :
    graph.rule? id = some rule ↔ rule.label = id ∧ graph.Holds rule := by
  constructor
  · intro unfolded
    exact ⟨label_of_unfold graph _ id rule unfolded, holds_of_unfold graph _ id rule unfolded⟩
  · rintro ⟨rfl, held⟩
    apply unfold_card_of_holds graph rule held
    have inRange : rule.labels.toFinset ⊆ Finset.range graph.nodes.size := by
      intro id inside
      exact Finset.mem_range.mpr
        (label_lt_size graph rule held id (List.mem_toFinset.mp inside))
    have bounded := Finset.card_le_card inRange
    rwa [Finset.card_range] at bounded

/-! ## Nodes without circles below -/

/-- Every node below the root is there, and none of them is below a node that it refers to. -/
structure IsAcyclicFrom (graph : Graph Criterion) (root : NodeId) : Prop where
  complete : ∀ id, graph.Reaches root id → ∃ shape, graph.shape? id = some shape
  no_return : ∀ id, graph.Reaches root id → ∀ shape, graph.shape? id = some shape →
    ∀ child ∈ shape.children, ¬graph.Reaches child id

theorem reaches_iff_of_holds (graph : Graph Criterion) (rule : Rule NodeId Criterion)
    (held : graph.Holds rule) (id : NodeId) :
    graph.Reaches rule.label id ↔ id ∈ rule.labels := by
  constructor
  · intro path
    generalize same : rule.label = root at path
    induction path generalizing rule with
    | self root =>
        subst same
        exact rule.label_mem_labels
    | through root child target shape found member onward ih =>
        subst same
        rw [shape?_of_holds graph rule held, Option.some.injEq] at found
        rw [← found, Rule.shape_children] at member
        obtain ⟨part, partMember, sameLabel⟩ := List.mem_map.mp member
        have partHeld := holds_of_part graph rule part held partMember
        exact Rule.labels_of_part rule part partMember target (ih part partHeld sameLabel)
  · intro member
    induction held with
    | node rule found below ih =>
        rw [Rule.labels_eq_cons, List.mem_cons] at member
        rcases member with rfl | inParts
        · exact .self rule.label
        · obtain ⟨part, partMember, inside⟩ := List.mem_flatMap.mp inParts
          refine .through rule.label part.label id rule.shape found ?_ (ih part partMember inside)
          rw [Rule.shape_children]
          exact List.mem_map_of_mem partMember

theorem exists_held (graph : Graph Criterion) (ids : List NodeId)
    (each : ∀ id ∈ ids, ∃ rule, rule.label = id ∧ graph.Holds rule) :
    ∃ rules : List (Rule NodeId Criterion),
      rules.map Rule.label = ids ∧ ∀ rule ∈ rules, graph.Holds rule := by
  induction ids with
  | nil => exact ⟨[], rfl, by simp⟩
  | cons id rest ih =>
      obtain ⟨⟨rule, rfl, held⟩, others⟩ := List.forall_mem_cons.mp each
      obtain ⟨rules, rfl, restHeld⟩ := ih others
      exact ⟨rule :: rules, rfl, List.forall_mem_cons.mpr ⟨held, restHeld⟩⟩

theorem isAcyclicFrom_child (graph : Graph Criterion) (root child : NodeId)
    (shape : Shape Criterion) (found : graph.shape? root = some shape)
    (member : child ∈ shape.children) (acyclic : graph.IsAcyclicFrom root) :
    graph.IsAcyclicFrom child where
  complete := fun id path => acyclic.complete id (.through root child id shape found member path)
  no_return := fun id path => acyclic.no_return id (.through root child id shape found member path)

open Classical in
theorem holds_of_acyclic (graph : Graph Criterion) (size : Nat) (root : NodeId)
    (acyclic : graph.IsAcyclicFrom root)
    (bound : ((Finset.range graph.nodes.size).filter (graph.Reaches root)).card ≤ size) :
    ∃ rule, rule.label = root ∧ graph.Holds rule := by
  have inside : ∀ id, graph.Reaches root id → id < graph.nodes.size := by
    intro id path
    obtain ⟨shape, found⟩ := acyclic.complete id path
    obtain ⟨node, nodeFound, -⟩ := node?_of_shape? graph id shape found
    exact (node?_isSome_iff graph id).mp ⟨node, nodeFound⟩
  have rootInside : root ∈ (Finset.range graph.nodes.size).filter (graph.Reaches root) := by
    simpa using ⟨inside root (.self root), Reaches.self root⟩
  induction size generalizing root with
  | zero =>
      have positive := Finset.card_pos.mpr ⟨root, rootInside⟩
      omega
  | succ size ih =>
      obtain ⟨shape, found⟩ := acyclic.complete root (.self root)
      have onward : ∀ child ∈ shape.children, ∀ id, graph.Reaches child id →
          graph.Reaches root id :=
        fun child member id path => .through root child id shape found member path
      obtain ⟨parts, labels, partsHeld⟩ := exists_held graph shape.children fun child member => by
        -- fewer nodes are below the child: the root is below itself but not below the child
        have fewer : ((Finset.range graph.nodes.size).filter (graph.Reaches child)).card <
            ((Finset.range graph.nodes.size).filter (graph.Reaches root)).card := by
          apply Finset.card_lt_card
          rw [Finset.ssubset_iff_of_subset fun id belowChild => by
            obtain ⟨isNode, path⟩ := Finset.mem_filter.mp belowChild
            exact Finset.mem_filter.mpr ⟨isNode, onward child member id path⟩]
          refine ⟨root, rootInside, fun belowChild => ?_⟩
          exact acyclic.no_return root (.self root) shape found child member
            (Finset.mem_filter.mp belowChild).2
        have childInside : ∀ id, graph.Reaches child id → id < graph.nodes.size :=
          fun id path => inside id (onward child member id path)
        refine ih child (isAcyclicFrom_child graph root child shape found member acyclic) (by omega)
          childInside ?_
        simpa using ⟨childInside child (.self child), Reaches.self child⟩
      obtain ⟨rule, rfl, rfl, rfl⟩ := Rule.exists_of_shape root shape parts labels
      exact ⟨rule, rfl, .node rule found partsHeld⟩

/-- A node has a rule exactly when nothing below it is missing or circular. -/
theorem rule?_isSome_iff (graph : Graph Criterion) (root : NodeId) :
    (∃ rule, graph.rule? root = some rule) ↔ graph.IsAcyclicFrom root := by
  constructor
  · rintro ⟨rule, unfolded⟩
    obtain ⟨rfl, held⟩ := (rule?_eq_some_iff graph root rule).mp unfolded
    have reached : ∀ id, graph.Reaches rule.label id → ∃ below, graph.Holds below ∧
        below.label = id := by
      intro id path
      obtain ⟨below, belowHeld, sameLabel, -⟩ :=
        holds_below graph rule held id ((reaches_iff_of_holds graph rule held id).mp path)
      exact ⟨below, belowHeld, sameLabel⟩
    constructor
    · intro id path
      obtain ⟨below, belowHeld, rfl⟩ := reached id path
      exact ⟨below.shape, shape?_of_holds graph below belowHeld⟩
    · intro id path shape found child member back
      obtain ⟨below, belowHeld, rfl⟩ := reached id path
      rw [shape?_of_holds graph below belowHeld, Option.some.injEq] at found
      rw [← found, Rule.shape_children] at member
      obtain ⟨part, partMember, rfl⟩ := List.mem_map.mp member
      have partHeld := holds_of_part graph below part belowHeld partMember
      exact root_not_below graph below part belowHeld partMember
        ((reaches_iff_of_holds graph part partHeld below.label).mp back)
  · intro acyclic
    obtain ⟨rule, labelled, held⟩ := holds_of_acyclic graph _ root acyclic (Nat.le_refl _)
    exact ⟨rule, (rule?_eq_some_iff graph root rule).mpr ⟨labelled, held⟩⟩

theorem isComplete_of_rule? (graph : Graph Criterion) (root : NodeId)
    (rule : Rule NodeId Criterion) (unfolded : graph.rule? root = some rule) :
    graph.IsComplete root :=
  ((rule?_isSome_iff graph root).mp ⟨rule, unfolded⟩).complete

end Graph

end Eligibility
