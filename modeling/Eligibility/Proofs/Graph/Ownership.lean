import Eligibility.Proofs.Graph.Compose

/-!
# Rules that are kept apart

A composition may extend the root of an operand.  It leaves every other rule as it is as long as
that root is not part of the other rule.  Rules are apart in this sense when neither contains the
root of the other, where that root is a connective; rules of other kinds can be shared.
-/

set_option autoImplicit false

namespace Eligibility

namespace Graph

variable {Criterion : Type}

/-- A connective at the root of one rule is not part of the other rule. -/
def Apart (first second : Rule NodeId Criterion) : Prop :=
  (first.isCompound = true → first.label ∉ second.labels) ∧
    (second.isCompound = true → second.label ∉ first.labels)

theorem apart_self (rule : Rule NodeId Criterion) (shared : rule.isCompound = false) :
    Apart rule rule := by
  simp [Apart, shared]

/-- A step makes a rule out of operands and leaves alone whatever is apart from them. -/
structure Yields (graph later : Graph Criterion) (operands : List (Rule NodeId Criterion))
    (made : Rule NodeId Criterion) : Prop where
  held : later.Holds made
  frame : ∀ other, graph.Holds other → (∀ operand ∈ operands, Apart operand other) →
    later.Holds other ∧ Apart made other

theorem yields_trans (graph between later : Graph Criterion)
    (operands others : List (Rule NodeId Criterion)) (joined made : Rule NodeId Criterion)
    (first : Yields graph between operands joined)
    (second : Yields between later (joined :: others) made) :
    Yields graph later (operands ++ others) made where
  held := second.held
  frame := by
    intro other otherHeld apart
    obtain ⟨betweenHeld, joinedApart⟩ := first.frame other otherHeld fun operand member =>
      apart operand (List.mem_append_left others member)
    apply second.frame other betweenHeld
    exact List.forall_mem_cons.mpr ⟨joinedApart, fun operand member =>
      apart operand (List.mem_append_right operands member)⟩

theorem yields_of_changed (graph later : Graph Criterion)
    (operands : List (Rule NodeId Criterion)) (made : Rule NodeId Criterion)
    (here : later.shape? made.label = some made.shape)
    (elsewhere : ∀ id, id ≠ made.label → later.node? id = graph.node? id)
    (partsHeld : ∀ part ∈ made.parts, graph.Holds part ∧ made.label ∉ part.labels)
    (fromOperands : ∀ part ∈ made.parts, ∀ id ∈ part.labels,
      ∃ operand ∈ operands, id ∈ operand.labels)
    (untouched : ∀ other, graph.Holds other → (∀ operand ∈ operands, Apart operand other) →
      made.label ∉ other.labels) :
    Yields graph later operands made where
  held := by
    refine .node made here fun part member => ?_
    obtain ⟨partHeld, notBelow⟩ := partsHeld part member
    exact (holds_iff_of_changed graph later made.label elsewhere part notBelow).mpr partHeld
  frame := by
    intro other otherHeld apart
    have notBelow := untouched other otherHeld apart
    refine ⟨(holds_iff_of_changed graph later made.label elsewhere other notBelow).mpr otherHeld,
      fun _ => notBelow, fun isCompound inside => ?_⟩
    rw [Rule.labels_eq_cons, List.mem_cons] at inside
    rcases inside with same | below
    · exact notBelow (same ▸ other.label_mem_labels)
    · obtain ⟨part, member, inPart⟩ := List.mem_flatMap.mp below
      obtain ⟨operand, isOperand, inOperand⟩ := fromOperands part member other.label inPart
      exact (apart operand isOperand).2 isCompound inOperand

theorem size_not_in_held (graph : Graph Criterion) (rule : Rule NodeId Criterion)
    (held : graph.Holds rule) : graph.nodes.size ∉ rule.labels := by
  intro inside
  exact Nat.lt_irrefl _ (label_lt_size graph rule held graph.nodes.size inside)

theorem allocate_yields (graph : Graph Criterion) (operands : List (Rule NodeId Criterion))
    (made : Rule NodeId Criterion) (isNew : made.label = graph.nodes.size)
    (partsHeld : ∀ part ∈ made.parts, graph.Holds part)
    (fromOperands : ∀ part ∈ made.parts, ∀ id ∈ part.labels,
      ∃ operand ∈ operands, id ∈ operand.labels) :
    Yields graph (graph.allocate made.shape).2 operands made := by
  obtain ⟨here, elsewhere, -⟩ := allocate_changes graph made.shape
  change (graph.allocate made.shape).2.node? graph.nodes.size = _ at here
  change ∀ id, id ≠ graph.nodes.size → _ at elsewhere
  rw [← isNew] at here elsewhere
  have notHeld : ∀ rule, graph.Holds rule → made.label ∉ rule.labels := by
    intro rule held
    rw [isNew]
    exact size_not_in_held graph rule held
  exact yields_of_changed graph _ operands made (shape?_of_node? _ _ _ false here) elsewhere
    (fun part member => ⟨partsHeld part member, notHeld part (partsHeld part member)⟩)
    fromOperands (fun other held _ => notHeld other held)

/-! ## Joining -/

theorem joinedChildren_of_holds (graph : Graph Criterion) (connective : Connective)
    (first second : Rule NodeId Criterion) (firstHeld : graph.Holds first)
    (secondHeld : graph.Holds second) (label : NodeId) :
    (Rule.joined label connective first second).shape =
      .compound connective (graph.joinedChildren connective first.label second.label) := by
  have grouped := group?_of_holds graph connective first firstHeld
  have secondClauses := clauses_of_holds graph connective second secondHeld
  cases isJoined : first.joins connective <;>
    simp [Rule.joined, Rule.shape, joinedChildren, grouped, secondClauses, isJoined]

theorem join_yields (graph : Graph Criterion) (connective : Connective)
    (first second : Rule NodeId Criterion) (firstHeld : graph.Holds first)
    (secondHeld : graph.Holds second) (apart : Apart first second) (made : NodeId)
    (later : Graph Criterion)
    (composed : graph.join connective first.label second.label = (made, later)) :
    Yields graph later [first, second] (Rule.joined made connective first second) := by
  obtain ⟨here, elsewhere, receiver⟩ :=
    join_changes graph connective first.label second.label made later composed
  have sameShape :=
    joinedChildren_of_holds graph connective first second firstHeld secondHeld made
  have partHeld : ∀ part ∈ (Rule.joined made connective first second).parts,
      graph.Holds part := by
    intro part member
    rcases Rule.part_of_joined made connective first second part member with
      ⟨inFirst, -⟩ | inSecond | ⟨-, rfl | rfl⟩
    · exact holds_of_part graph first part firstHeld inFirst
    · unfold Rule.clauses at inSecond
      split at inSecond
      · exact holds_of_part graph second part secondHeld inSecond
      · rw [List.mem_singleton.mp inSecond]
        exact secondHeld
    · exact firstHeld
    · exact secondHeld
  have fromOperands : ∀ part ∈ (Rule.joined made connective first second).parts,
      ∀ id ∈ part.labels, ∃ operand ∈ [first, second], id ∈ operand.labels := by
    intro part member id inside
    rcases Rule.labels_of_part_joined made connective first second part member id inside with
      inFirst | inSecond
    · exact ⟨first, by simp, inFirst⟩
    · exact ⟨second, by simp, inSecond⟩
  rcases receiver with ⟨rfl, children, isOpen⟩ | ⟨-, fresh⟩
  · -- the receiver is extended: its root is below none of the new children
    have isJoined : first.joins connective = true := by
      have found := shape?_of_holds graph first firstHeld
      rw [shape?_of_node? graph _ _ false isOpen, Option.some.injEq] at found
      exact Rule.joins_of_shape connective first children found.symm
    have isCompound := Rule.isCompound_of_joins connective first isJoined
    refine yields_of_changed graph later _ _ ?_ elsewhere (fun part member => ?_) fromOperands ?_
    · rw [sameShape]
      exact shape?_of_node? later _ _ false here
    · refine ⟨partHeld part member, ?_⟩
      rcases Rule.part_of_joined first.label connective first second part member with
        ⟨inFirst, -⟩ | inSecond | ⟨notJoined, -⟩
      · exact root_not_below graph first part firstHeld inFirst
      · exact fun inside => apart.1 isCompound
          (Rule.labels_of_clause connective second part inSecond _ inside)
      · rw [isJoined] at notJoined
        cases notJoined
    · exact fun other _ othersApart => (othersApart first (by simp)).1 isCompound
  · have notHeld : ∀ rule, graph.Holds rule → made ∉ rule.labels := by
      intro rule held inside
      obtain ⟨node, found⟩ := (node?_isSome_iff graph made).mpr
        (label_lt_size graph rule held made inside)
      rw [fresh] at found
      cases found
    refine yields_of_changed graph later _ _ ?_ elsewhere (fun part member => ?_) fromOperands ?_
    · rw [sameShape]
      exact shape?_of_node? later _ _ false here
    · exact ⟨partHeld part member, notHeld part (partHeld part member)⟩
    · exact fun other held _ => notHeld other held

theorem fold_join_yields (connective : Connective) (rest : List (Rule NodeId Criterion))
    (graph : Graph Criterion) (first : Rule NodeId Criterion) (firstHeld : graph.Holds first)
    (restHeld : ∀ rule ∈ rest, graph.Holds rule) (apart : (first :: rest).Pairwise Apart)
    (made : NodeId) (later : Graph Criterion)
    (folded : (rest.map Rule.label).foldl
      (fun reached next => reached.2.join connective reached.1 next) (first.label, graph) =
        (made, later)) :
    ∃ result : Rule NodeId Criterion, result.label = made ∧
      Yields graph later (first :: rest) result ∧
      result.form = (rest.map Rule.form).foldl (Rule.joined none connective) first.form := by
  induction rest generalizing graph first with
  | nil =>
      obtain ⟨rfl, rfl⟩ := Prod.mk.inj folded
      exact ⟨first, rfl, ⟨firstHeld, fun other held apart => ⟨held, apart first (by simp)⟩⟩, rfl⟩
  | cons next rest ih =>
      obtain ⟨firstApart, restApart⟩ := List.pairwise_cons.mp apart
      obtain ⟨nextApart, othersApart⟩ := List.pairwise_cons.mp restApart
      obtain ⟨nextHeld, othersHeld⟩ := List.forall_mem_cons.mp restHeld
      rcases composed : graph.join connective first.label next.label with ⟨middle, between⟩
      rw [List.map_cons, List.foldl_cons, composed] at folded
      have yields := join_yields graph connective first next firstHeld nextHeld
        (firstApart next (by simp)) middle between composed
      have framed : ∀ other ∈ rest, between.Holds other ∧
          Apart (Rule.joined middle connective first next) other := by
        intro other member
        apply yields.frame other (othersHeld other member)
        simp only [List.forall_mem_cons]
        exact ⟨firstApart other (by simp [member]), nextApart other member, by simp⟩
      obtain ⟨result, isMade, restYields, form⟩ :=
        ih between (Rule.joined middle connective first next) yields.held
          (fun other member => (framed other member).1)
          (List.pairwise_cons.mpr ⟨fun other member => (framed other member).2, othersApart⟩) folded
      refine ⟨result, isMade,
        yields_trans graph between later [first, next] rest _ result yields restYields, ?_⟩
      rw [form, Rule.form, Rule.rename_joined]
      rfl

end Graph

end Eligibility
