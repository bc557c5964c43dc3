import Eligibility.Graph.Answer
import Eligibility.Proofs.Graph.Compose

/-!
# Verdicts of compositions

A composition by a connective asks its operands in turn, as they stood before it: be the receiver
extended or a new node made, and be the clauses of the other operand taken over or the operand
itself.  The exceptions are connectives without children, which fail by themselves but contribute
nothing, and compositions that put a node below itself.
-/

set_option autoImplicit false

namespace Eligibility

namespace Graph

section

variable {Criterion : Type}

/-- A node that is there, and that is not the connective without children. -/
def IsOperand (graph : Graph Criterion) (connective : Connective) (id : NodeId) : Prop :=
  ∃ shape, graph.shape? id = some shape ∧ shape ≠ .compound connective []

theorem group?_ne_nil (graph : Graph Criterion) (connective : Connective) (id : NodeId)
    (isOperand : graph.IsOperand connective id) (children : List NodeId)
    (grouped : graph.group? connective id = some children) : children ≠ [] := by
  rintro rfl
  obtain ⟨shape, found, filled⟩ := isOperand
  rw [group?_eq_some_iff, found, Option.some.injEq] at grouped
  exact filled grouped

theorem clauses_ne_nil (graph : Graph Criterion) (connective : Connective)
    (rule : Rule NodeId Criterion) (held : graph.Holds rule)
    (isOperand : graph.IsOperand connective rule.label) : rule.clauses connective ≠ [] := by
  intro none
  have same := clauses_of_holds graph connective rule held
  rw [clauses_eq, none, List.map_nil] at same
  cases grouped : graph.group? connective rule.label with
  | none => simp [grouped] at same
  | some children =>
      rw [grouped, Option.getD_some] at same
      exact group?_ne_nil graph connective rule.label isOperand children grouped same

theorem isOperand_of_join (graph : Graph Criterion) (connective : Connective)
    (receiver other made : NodeId) (later : Graph Criterion)
    (composed : graph.join connective receiver other = (made, later))
    (isOperand : graph.IsOperand connective receiver) : later.IsOperand connective made := by
  obtain ⟨here, -, -⟩ := join_changes graph connective receiver other made later composed
  refine ⟨_, shape?_of_node? later made _ false here, ?_⟩
  rw [ne_eq, Shape.compound.injEq]
  rintro ⟨-, none⟩
  unfold joinedChildren at none
  split at none
  next children grouped =>
    exact group?_ne_nil graph connective receiver isOperand children grouped
      (List.append_eq_nil_iff.mp none).1
  next => cases none

theorem asksInTurn_cons (graph : Graph Criterion) (connective : Connective) (made : NodeId)
    (first second result : Rule NodeId Criterion) (others : List (Rule NodeId Criterion))
    (firstHeld : graph.Holds first) (firstOperand : graph.IsOperand connective first.label)
    (secondHeld : graph.Holds second) (secondOperand : graph.IsOperand connective second.label)
    (asks : result.AsksInTurn connective
      (Rule.joined made connective first second :: others)) :
    result.AsksInTurn connective (first :: second :: others) := by
  apply Rule.asksInTurn_of_judged
  intro State answer
  have joinedAsks := Rule.joined_asksInTurn made connective first second
    (clauses_ne_nil graph connective first firstHeld firstOperand)
    (clauses_ne_nil graph connective second secondHeld secondOperand)
  rw [asks.judged State answer, List.map_cons, joinedAsks.judged State answer,
    Trial.inTurn_group]
  rfl

/-- The run: the accumulated node is the only one that changes, and it is in no later operand. -/
theorem fold_asksInTurn (connective : Connective) (rest : List NodeId) (graph : Graph Criterion)
    (reached made : NodeId) (later : Graph Criterion)
    (folded : rest.foldl (fun earlier next => earlier.2.join connective earlier.1 next)
      (reached, graph) = (made, later))
    (reachedOperand : graph.IsOperand connective reached)
    (operands : ∀ id ∈ rest, graph.IsOperand connective id) (notAgain : reached ∉ rest)
    (result : Rule NodeId Criterion) (held : later.Holds result) (isMade : result.label = made) :
    ∃ first others, first.label = reached ∧ graph.Holds first ∧
      others.map Rule.label = rest ∧ (∀ other ∈ others, graph.Holds other) ∧
      (graph.IsOpen connective reached → ∀ other ∈ others, reached ∉ other.labels) ∧
      result.AsksInTurn connective (first :: others) := by
  induction rest generalizing graph reached with
  | nil =>
      obtain ⟨rfl, rfl⟩ := Prod.mk.inj folded
      refine ⟨result, [], isMade, held, rfl, by simp, by simp, ?_⟩
      apply Rule.asksInTurn_of_judged
      intro State answer
      exact (Trial.inTurn_single connective _).symm
  | cons next rest ih =>
      obtain ⟨nextOperand, restOperands⟩ := List.forall_mem_cons.mp operands
      obtain ⟨notNext, notInRest⟩ : reached ≠ next ∧ reached ∉ rest := by simpa using notAgain
      rcases composed : graph.join connective reached next with ⟨middle, between⟩
      rw [List.foldl_cons, composed] at folded
      obtain ⟨here, elsewhere, receiver⟩ :=
        join_changes graph connective reached next middle between composed
      -- later operands are not the node that this step changes, be it extended or new
      have notMiddle : ∀ id, id ≠ reached → graph.IsOperand connective id → id ≠ middle := by
        rintro id differs ⟨shape, found, -⟩ rfl
        rcases receiver with ⟨same, -⟩ | ⟨-, fresh⟩
        · exact differs same
        · rw [shape?, fresh] at found
          cases found
      have restDiffers : ∀ id ∈ rest, id ≠ middle := fun id member =>
        notMiddle id (fun same => notInRest (same ▸ member)) (restOperands id member)
      obtain ⟨joined, others, isJoined, joinedHeld, labels, othersHeld, untouched, asks⟩ :=
        ih between middle folded
          (isOperand_of_join graph connective reached next middle between composed reachedOperand)
          (fun id member => by
            obtain ⟨shape, found, filled⟩ := restOperands id member
            refine ⟨shape, ?_, filled⟩
            rw [shape?, elsewhere id (restDiffers id member)]
            exact found)
          (fun member => restDiffers middle member rfl)
      obtain ⟨first, second, rfl, firstHeld, rfl, secondHeld, rfl, secondUntouched⟩ :=
        joined_of_join graph connective reached next middle between composed joined joinedHeld
          isJoined
      have othersUntouched := untouched ⟨_, here⟩
      refine ⟨first, second :: others, rfl, firstHeld, by rw [List.map_cons, labels], ?_, ?_, ?_⟩
      · exact List.forall_mem_cons.mpr ⟨secondHeld, fun other member =>
          (holds_iff_of_changed graph between middle elsewhere other
            (othersUntouched other member)).mp (othersHeld other member)⟩
      · intro isOpen
        rcases receiver with ⟨rfl, -⟩ | ⟨isClosed, -⟩
        · exact List.forall_mem_cons.mpr ⟨secondUntouched (Ne.symm notNext), othersUntouched⟩
        · exact absurd isOpen isClosed
      · exact asksInTurn_cons graph connective middle first second result others firstHeld
          reachedOperand secondHeld nextOperand asks

/-- A composition has the verdict or the fault of its operands asked in turn, as they stood before
it, and asks the same leaves in the same order.  So has a composition of a list whose first node
does not occur again; without operands it has the neutral verdict and asks nothing. -/
theorem composition_asks_operands_in_turn (graph : Graph Criterion) (connective : Connective) :
    (∀ receiver other made later, graph.join connective receiver other = (made, later) →
      graph.IsOperand connective receiver → graph.IsOperand connective other →
      later.IsAcyclicFrom made →
      ∃ first second result, graph.rule? receiver = some first ∧
        graph.rule? other = some second ∧ later.rule? made = some result ∧
        result.AsksInTurn connective [first, second]) ∧
    ∀ ids made later, graph.joinAll connective ids = (made, later) →
      (∀ id ∈ ids, graph.IsOperand connective id) →
      (∀ first rest, ids = first :: rest → first ∉ rest) →
      later.IsAcyclicFrom made →
      ∃ operands result, ids.map graph.rule? = operands.map some ∧
        later.rule? made = some result ∧ result.AsksInTurn connective operands := by
  constructor
  · intro receiver other made later composed receiverOperand otherOperand acyclic
    obtain ⟨result, unfolded⟩ := (rule?_isSome_iff later made).mpr acyclic
    obtain ⟨isMade, held⟩ := (rule?_eq_some_iff later made result).mp unfolded
    obtain ⟨first, second, rfl, firstHeld, rfl, secondHeld, rfl, -⟩ :=
      joined_of_join graph connective receiver other made later composed result held isMade
    refine ⟨first, second, _, ?_, ?_, unfolded, ?_⟩
    · exact (rule?_eq_some_iff graph _ first).mpr ⟨rfl, firstHeld⟩
    · exact (rule?_eq_some_iff graph _ second).mpr ⟨rfl, secondHeld⟩
    · exact Rule.joined_asksInTurn made connective first second
        (clauses_ne_nil graph connective first firstHeld receiverOperand)
        (clauses_ne_nil graph connective second secondHeld otherOperand)
  · intro ids made later composed operands notAgain acyclic
    obtain ⟨result, unfolded⟩ := (rule?_isSome_iff later made).mpr acyclic
    obtain ⟨isMade, held⟩ := (rule?_eq_some_iff later made result).mp unfolded
    cases ids with
    | nil =>
        refine ⟨[], result, rfl, unfolded, ?_⟩
        have isConstant : result = .constant made connective.neutral := by
          obtain ⟨here, -, -⟩ := allocate_changes graph (.constant connective.neutral)
          rw [joinAll] at composed
          rw [composed] at here
          refine holds_unique later result _ held (.node _ ?_ (by simp [Rule.parts])) isMade
          exact shape?_of_node? later made _ false here
        apply Rule.asksInTurn_of_judged
        intro State answer
        rw [isConstant, Rule.judge]
        rfl
    | cons first rest =>
        obtain ⟨firstOperand, restOperands⟩ := List.forall_mem_cons.mp operands
        obtain ⟨head, others, rfl, headHeld, rfl, othersHeld, -, asks⟩ :=
          fold_asksInTurn connective rest graph first made later composed firstOperand
            restOperands (notAgain first rest rfl) result held isMade
        refine ⟨head :: others, result, ?_, unfolded, asks⟩
        have allHeld := List.forall_mem_cons.mpr ⟨headHeld, othersHeld⟩
        rw [← List.map_cons, List.map_map]
        apply List.map_congr_left
        intro operand member
        exact (rule?_eq_some_iff graph _ operand).mpr ⟨rfl, allHeld operand member⟩

end

def sharedFlag : Graph Criterion :=
  ⟨#[⟨.leaf (.flagged "a"), true⟩, ⟨.leaf .unfinished, true⟩, ⟨.compound .conjunction [0], false⟩,
    ⟨.compound .conjunction [0, 1], true⟩]⟩

/-- The open conjunction is extended by the sealed one.  With the flag set, the flag is asked for
each of them, and then the rule that fails. -/
theorem extended_conjunction_asks_shared_flag_twice :
    (sharedFlag.join .conjunction 2 3).1 = 2 ∧
      (∃ result, (sharedFlag.join .conjunction 2 3).2.rule? 2 = some result ∧
        result.AsksInTurn .conjunction
          [.compound 2 .conjunction [.leaf 0 (.flagged "a")],
            .compound 3 .conjunction [.leaf 0 (.flagged "a"), .leaf 1 .unfinished]] ∧
        result.asked (Criterion.answer (.plain [("a", .boolean true)])) [] =
          [(0, .flagged "a"), (0, .flagged "a"), (1, .unfinished)]) ∧
      ∃ result, (sharedFlag.joinAll .disjunction [3, 0, 2]).2.rule? 4 = some result ∧
        result.AsksInTurn .disjunction
          [.compound 3 .conjunction [.leaf 0 (.flagged "a"), .leaf 1 .unfinished],
            .leaf 0 (.flagged "a"), .compound 2 .conjunction [.leaf 0 (.flagged "a")]] := by
  have operand : ∀ connective, ∀ id ∈ [3, 0, 2], sharedFlag.IsOperand connective id := by
    intro connective id member
    have isNode : id = 3 ∨ id = 0 ∨ id = 2 := by simpa using member
    rcases isNode with rfl | rfl | rfl
    · exact ⟨.compound .conjunction [0, 1], rfl, by simp⟩
    · exact ⟨.leaf (.flagged "a"), rfl, by simp⟩
    · exact ⟨.compound .conjunction [0], rfl, by simp⟩
  obtain ⟨pairs, -⟩ := composition_asks_operands_in_turn sharedFlag .conjunction
  obtain ⟨-, lists⟩ := composition_asks_operands_in_turn sharedFlag .disjunction
  obtain ⟨first, second, result, isFirst, isSecond, isResult, asks⟩ := pairs 2 3 2
    (sharedFlag.join .conjunction 2 3).2 rfl (operand _ 2 (by simp)) (operand _ 3 (by simp))
    ((rule?_isSome_iff _ 2).mp ⟨_, rfl⟩)
  obtain ⟨operands, whole, areOperands, isWhole, asksAll⟩ := lists [3, 0, 2] 4
    (sharedFlag.joinAll .disjunction [3, 0, 2]).2 rfl
    (operand _)
    (fun head rest same => by cases same; decide) ((rule?_isSome_iff _ 4).mp ⟨_, rfl⟩)
  cases isFirst
  cases isSecond
  refine ⟨rfl, ⟨result, isResult, asks, ?_⟩, whole, isWhole, ?_⟩
  · rw [asks.asks]
    rfl
  · have known : operands =
        [.compound 3 .conjunction [.leaf 0 (.flagged "a"), .leaf 1 .unfinished],
          .leaf 0 (.flagged "a"), .compound 2 .conjunction [.leaf 0 (.flagged "a")]] := by
      apply List.map_injective_iff.mpr (Option.some_injective _)
      exact areOperands.symm
    rw [← known]
    exact asksAll

end Graph

end Eligibility
