import Eligibility.Proofs.Graph.Acyclic
import Eligibility.Proofs.Rule.Calls
import Eligibility.Proofs.Rule.Criteria

/-!
# Verdicts as folds

A visitor that asks each leaf and puts the verdicts of the parts together folds a rule to its
verdict.  A fold has no way to stop early, so it asks every leaf; where the leaves always answer,
the verdict does not show it.
-/

set_option autoImplicit false

namespace Eligibility

namespace Connective

def combineAll : Connective → List Bool → Bool
  | .conjunction, verdicts => verdicts.all id
  | .disjunction, verdicts => verdicts.any id

theorem combineAll_nil (connective : Connective) : connective.combineAll [] = connective.neutral := by
  cases connective <;> rfl

theorem combineAll_cons (connective : Connective) (verdict : Bool) (rest : List Bool) :
    connective.combineAll (verdict :: rest) =
      if verdict = connective.neutral then connective.combineAll rest else verdict := by
  cases connective <;> cases verdict <;> rfl

end Connective

namespace Rule

variable {Label Criterion State : Type}

/-- Asks a leaf, and all the parts of any other rule before it puts their verdicts together. -/
def evaluator (answer : Label → Criterion → Trial State Bool) :
    Visitor Label Criterion (Trial State Bool) where
  leaf := answer
  constant verdict := pure verdict
  compound connective trials := do
    let verdicts ← trials.mapM id
    return connective.combineAll verdicts
  exclusive left right := do
    let first ← left
    let second ← right
    return first != second
  negation operand := do
    let verdict ← operand
    return !verdict

section

variable (answer : Label → Criterion → Trial State Bool)

/-! ## The verdict of a fold -/

/-- The rule and its fold have the same verdict, whatever the state. -/
def IsFoldedTo (rule : Rule Label Criterion) (verdict : Bool) : Prop :=
  ∀ state, (rule.judge answer).outcome state = .ok verdict ∧
    (rule.accept (evaluator answer)).outcome state = .ok verdict

theorem clauses_folded (connective : Connective) (children : List (Rule Label Criterion))
    (folded : ∀ child ∈ children, ∃ verdict, child.IsFoldedTo answer verdict) :
    ∃ verdicts, ∀ state,
      (judgeAll answer connective children).outcome state =
        .ok (connective.combineAll verdicts) ∧
      ((acceptAll (evaluator answer) children).mapM id).outcome state = .ok verdicts := by
  induction children with
  | nil => exact ⟨[], fun _ => ⟨congrArg Except.ok connective.combineAll_nil.symm, rfl⟩⟩
  | cons child rest ih =>
      obtain ⟨⟨verdict, here⟩, others⟩ := List.forall_mem_cons.mp folded
      obtain ⟨verdicts, onward⟩ := ih others
      refine ⟨verdict :: verdicts, fun state => ⟨?_, ?_⟩⟩
      · rw [judgeAll, Trial.outcome_bind_of_ok _ _ _ _ (here state).1, connective.combineAll_cons]
        split
        · exact (onward _).1
        · rfl
      · rw [acceptAll, List.mapM_cons, id, Trial.outcome_bind_of_ok _ _ _ _ (here state).2,
          Trial.outcome_bind_of_ok _ _ _ _ (onward _).2]
        rfl

/-- Over leaves that have a verdict and without empty connectives, a fold has the verdict of the
rule.  The induction is over the rule, one case for each way that a visitor is called. -/
theorem exists_folded (rule : Rule Label Criterion) (filled : rule.isFilled = true)
    (answered : rule.IsAnsweredUnder answer) : ∃ verdict, rule.IsFoldedTo answer verdict := by
  induction rule using induct with
  | leaf label criterion =>
      obtain ⟨verdict, outcome⟩ := answered (label, criterion) (by simp)
      exact ⟨verdict, fun state => ⟨outcome state, outcome state⟩⟩
  | constant label verdict => exact ⟨verdict, fun _ => ⟨rfl, rfl⟩⟩
  | compound label connective children childInduction =>
      obtain ⟨nonempty, childFilled⟩ := (isFilled_compound_iff label connective children).mp filled
      obtain ⟨verdicts, folded⟩ := clauses_folded answer connective children fun child member =>
        childInduction child member (childFilled child member)
          (isAnsweredUnder_part answer _ child answered member)
      refine ⟨connective.combineAll verdicts, fun state => ⟨?_, ?_⟩⟩
      · rw [judge_compound answer label connective children nonempty, ← judgeAll_eq_inTurn]
        exact (folded state).1
      · exact Trial.outcome_bind_of_ok _ _ _ _ (folded state).2
  | exclusive label left right leftInduction rightInduction =>
      rw [isFilled_exclusive, Bool.and_eq_true] at filled
      obtain ⟨first, leftFolded⟩ := leftInduction filled.1
        (isAnsweredUnder_part answer _ left answered (by simp [parts]))
      obtain ⟨second, rightFolded⟩ := rightInduction filled.2
        (isAnsweredUnder_part answer _ right answered (by simp [parts]))
      refine ⟨first != second, fun state => ⟨?_, ?_⟩⟩
      · rw [judge, Trial.outcome_bind_of_ok _ _ _ _ (leftFolded state).1]
        exact Trial.outcome_bind_of_ok _ _ _ _ (rightFolded _).1
      · refine (Trial.outcome_bind_of_ok _ _ _ _ (leftFolded state).2).trans ?_
        exact Trial.outcome_bind_of_ok _ _ _ _ (rightFolded _).2
  | negation label operand operandInduction =>
      rw [isFilled_negation] at filled
      obtain ⟨verdict, folded⟩ := operandInduction filled answered
      refine ⟨!verdict, fun state => ⟨?_, ?_⟩⟩
      · exact Trial.outcome_bind_of_ok _ _ _ _ (folded state).1
      · exact Trial.outcome_bind_of_ok _ _ _ _ (folded state).2

/-! ## The leaves that a fold asks -/

def askedByFold (rule : Rule Label Criterion) (state : State) : List (Label × Criterion) :=
  ((rule.accept (evaluator (recording answer))).after (state, [])).2

theorem answered_recording (rule : Rule Label Criterion) (answered : rule.IsAnsweredUnder answer) :
    rule.IsAnsweredUnder (recording answer) := by
  intro leaf member
  obtain ⟨verdict, outcome⟩ := answered leaf member
  exact ⟨verdict, fun recorded => outcome recorded.1⟩

/-- The fold puts the leaves of the rule on record, whatever was there before. -/
def FoldAsksLeaves (rule : Rule Label Criterion) : Prop :=
  ∀ state earlier, ((rule.accept (evaluator (recording answer))).after (state, earlier)).2 =
    earlier ++ rule.leaves

theorem clauses_asked (children : List (Rule Label Criterion))
    (folded : ∀ child ∈ children, ∃ verdict, child.IsFoldedTo (recording answer) verdict)
    (asks : ∀ child ∈ children, child.FoldAsksLeaves answer) (state : State)
    (earlier : List (Label × Criterion)) :
    (((acceptAll (evaluator (recording answer)) children).mapM id).after (state, earlier)).2 =
      earlier ++ children.flatMap leaves := by
  induction children generalizing state earlier with
  | nil => exact (List.append_nil earlier).symm
  | cons child rest ih =>
      obtain ⟨⟨verdict, here⟩, others⟩ := List.forall_mem_cons.mp folded
      obtain ⟨hereAsks, otherAsks⟩ := List.forall_mem_cons.mp asks
      rw [acceptAll, List.mapM_cons, id, Trial.after_bind_of_ok _ _ _ _ (here _).2,
        Trial.after_bind_pure, List.flatMap_cons, ← List.append_assoc, ← hereAsks state earlier]
      exact ih others otherAsks _ _

theorem fold_asks_leaves (rule : Rule Label Criterion) (filled : rule.isFilled = true)
    (answered : rule.IsAnsweredUnder answer) : rule.FoldAsksLeaves answer := by
  induction rule using induct with
  | leaf label criterion => exact fun _ _ => rfl
  | constant label verdict => exact fun _ earlier => (List.append_nil earlier).symm
  | compound label connective children childInduction =>
      have childFilled := ((isFilled_compound_iff label connective children).mp filled).2
      have childAnswered : ∀ child ∈ children, child.IsAnsweredUnder answer :=
        fun child member => isAnsweredUnder_part answer _ child answered member
      intro state earlier
      rw [leaves_compound, ← clauses_asked answer children (fun child member =>
        exists_folded (recording answer) child (childFilled child member)
          (answered_recording answer child (childAnswered child member))) (fun child member =>
        childInduction child member (childFilled child member) (childAnswered child member))
        state earlier]
      exact congrArg Prod.snd (Trial.after_bind_pure _ _ _)
  | exclusive label left right leftInduction rightInduction =>
      rw [isFilled_exclusive, Bool.and_eq_true] at filled
      have leftAnswered := isAnsweredUnder_part answer _ left answered (by simp [parts])
      have rightAnswered := isAnsweredUnder_part answer _ right answered (by simp [parts])
      obtain ⟨first, folded⟩ := exists_folded (recording answer) left filled.1
        (answered_recording answer left leftAnswered)
      intro state earlier
      rw [leaves_exclusive, ← List.append_assoc,
        ← leftInduction filled.1 leftAnswered state earlier]
      refine (congrArg Prod.snd ((Trial.after_bind_of_ok _ _ _ _ (folded _).2).trans
        (Trial.after_bind_pure _ _ _))).trans ?_
      exact rightInduction filled.2 rightAnswered _ _
  | negation label operand operandInduction =>
      rw [isFilled_negation] at filled
      intro state earlier
      rw [leaves_negation, ← operandInduction filled answered state earlier]
      exact congrArg Prod.snd (Trial.after_bind_pure _ _ _)

theorem isFilled_part (rule part : Rule Label Criterion) (filled : rule.isFilled = true)
    (member : part ∈ rule.parts) : part.isFilled = true := by
  cases rule with
  | leaf label criterion => cases member
  | constant label verdict => cases member
  | compound label connective children =>
      exact ((isFilled_compound_iff label connective children).mp filled).2 part member
  | exclusive label left right =>
      rw [isFilled_exclusive, Bool.and_eq_true] at filled
      rcases List.mem_cons.mp member with rfl | rightMember
      · exact filled.1
      · rw [List.mem_singleton.mp rightMember]
        exact filled.2
  | negation label operand =>
      rw [List.mem_singleton.mp member]
      exact filled

/-! ## The order of operands -/

variable (leafText : Criterion → String)

/-- A visitor, the verdict and the description take the clauses of a connective in one order. -/
structure TakesClauses (rule : Rule Label Criterion) (connective : Connective)
    (clauses : List (Rule Label Criterion)) : Prop where
  visited : ∀ {Result : Type} (visitor : Visitor Label Criterion Result),
    rule.accept visitor = visitor.compound connective (clauses.map (accept visitor))
  judged : rule.judge answer = Trial.inTurn connective (clauses.map (judge answer))
  described : rule.describe leafText = String.intercalate connective.separator
    (clauses.map fun clause => (clause.accept (describer leafText)).grouped)

structure TakesSides (rule left right : Rule Label Criterion) : Prop where
  visited : ∀ {Result : Type} (visitor : Visitor Label Criterion Result),
    rule.accept visitor = visitor.exclusive (left.accept visitor) (right.accept visitor)
  judged : rule.judge answer = do
    let first ← left.judge answer
    let second ← right.judge answer
    return first != second
  described : rule.describe leafText = (left.accept (describer leafText)).grouped ++ " Xor " ++
    (right.accept (describer leafText)).grouped

theorem takesClauses_compound (label : Label) (connective : Connective)
    (children : List (Rule Label Criterion)) (filled : children ≠ []) :
    TakesClauses answer leafText (.compound label connective children) connective children where
  visited visitor := by rw [accept, acceptAll_eq_map]
  judged := judge_compound answer label connective children filled
  described := by
    rw [describe, accept, acceptAll_eq_map]
    dsimp only [describer]
    rw [List.map_map]
    rfl

theorem takesSides_exclusive (label : Label) (left right : Rule Label Criterion) :
    TakesSides answer leafText (.exclusive label left right) left right where
  visited _ := rfl
  judged := rfl
  described := rfl

end

end Rule

namespace Graph

section

variable {Criterion State : Type}

theorem filled_below (graph : Graph Criterion) (rule : Rule NodeId Criterion)
    (held : graph.Holds rule) (filled : rule.isFilled = true) (id : NodeId)
    (path : graph.Reaches rule.label id) :
    ∃ below, graph.Holds below ∧ below.label = id ∧ below.isFilled = true := by
  generalize same : rule.label = root at path
  induction path generalizing rule with
  | self root => exact ⟨rule, held, same, filled⟩
  | through root child target shape found member onward ih =>
      subst same
      rw [shape?_of_holds graph rule held, Option.some.injEq] at found
      rw [← found, Rule.shape_children] at member
      obtain ⟨part, partMember, sameLabel⟩ := List.mem_map.mp member
      exact ih part (holds_of_part graph rule part held partMember)
        (Rule.isFilled_part rule part filled partMember) sameLabel

theorem rule?_of_part (graph : Graph Criterion) (rule part : Rule NodeId Criterion)
    (held : graph.Holds rule) (member : part ∈ rule.parts) :
    graph.rule? part.label = some part :=
  (rule?_eq_some_iff graph part.label part).mpr ⟨rfl, holds_of_part graph rule part held member⟩

/-- Over leaves that have a verdict and without empty connectives, a visitor that puts verdicts
together comes to the verdict of the rule.  It asks every leaf from left to right, and the verdict
asks some of these in the same order.  At every node below, visitors, verdict and description take
the operands in the order of the node. -/
theorem fold_has_verdict_of_rule (graph : Graph Criterion) (id : NodeId)
    (rule : Rule NodeId Criterion) (unfolded : graph.rule? id = some rule)
    (filled : rule.isFilled = true) (leafText : Criterion → String)
    (answer : NodeId → Criterion → Trial State Bool) (answered : rule.IsAnsweredUnder answer)
    (state : State) :
    (∃ verdict, (rule.judge answer).outcome state = .ok verdict ∧
      (rule.accept (Rule.evaluator answer)).outcome state = .ok verdict) ∧
    rule.askedByFold answer state = rule.leaves ∧
    (rule.asked answer state).Sublist (rule.askedByFold answer state) ∧
    (∀ below connective children, graph.Reaches id below →
      graph.shape? below = some (.compound connective children) →
      ∃ part clauses, graph.rule? below = some part ∧
        children.map graph.rule? = clauses.map some ∧
        part.TakesClauses answer leafText connective clauses) ∧
    ∀ below left right, graph.Reaches id below →
      graph.shape? below = some (.exclusive left right) →
      ∃ part first second, graph.rule? below = some part ∧
        graph.rule? left = some first ∧ graph.rule? right = some second ∧
        part.TakesSides answer leafText first second := by
  obtain ⟨rfl, held⟩ := (rule?_eq_some_iff graph id rule).mp unfolded
  obtain ⟨verdict, folded⟩ := Rule.exists_folded answer rule filled answered
  have asksLeaves : rule.askedByFold answer state = rule.leaves :=
    (Rule.fold_asks_leaves answer rule filled answered state []).trans (List.nil_append _)
  refine ⟨⟨verdict, folded state⟩, asksLeaves, ?_, ?_, ?_⟩
  · rw [asksLeaves]
    exact rule.asked_sublist_leaves answer state
  · intro below connective children path found
    obtain ⟨part, partHeld, rfl, partFilled⟩ := filled_below graph rule held filled below path
    rw [shape?_of_holds graph part partHeld, Option.some.injEq] at found
    cases part with
    | compound label connective clauses =>
        cases found
        refine ⟨_, clauses, (rule?_eq_some_iff graph _ _).mpr ⟨rfl, partHeld⟩, ?_,
          Rule.takesClauses_compound answer leafText label connective clauses
            ((Rule.isFilled_compound_iff ..).mp partFilled).1⟩
        rw [List.map_map]
        exact List.map_congr_left fun clause member =>
          rule?_of_part graph _ clause partHeld member
    | leaf | constant | exclusive | negation => cases found
  · intro below left right path found
    obtain ⟨part, partHeld, rfl, -⟩ := filled_below graph rule held filled below path
    rw [shape?_of_holds graph part partHeld, Option.some.injEq] at found
    cases part with
    | exclusive label first second =>
        cases found
        exact ⟨_, first, second, (rule?_eq_some_iff graph _ _).mpr ⟨rfl, partHeld⟩,
          rule?_of_part graph _ first partHeld (by simp [Rule.parts]),
          rule?_of_part graph _ second partHeld (by simp [Rule.parts]),
          Rule.takesSides_exclusive answer leafText label first second⟩
    | leaf | constant | compound | negation => cases found

end

def sharedFlags : Graph Criterion :=
  ⟨#[⟨.leaf (.flagged "a"), true⟩, ⟨.leaf (.flagged "b"), true⟩,
    ⟨.compound .conjunction [0, 1], true⟩, ⟨.exclusive 2 0, true⟩,
    ⟨.compound .disjunction [2, 3], true⟩]⟩

def sharedRule : Rule NodeId Criterion :=
  let both : Rule NodeId Criterion :=
    .compound 2 .conjunction [.leaf 0 (.flagged "a"), .leaf 1 (.flagged "b")]
  .compound 4 .disjunction [both, .exclusive 3 both (.leaf 0 (.flagged "a"))]

/-- With both flags set, the first conjunction settles the verdict, and the fold asks the other three
places of flags as well. -/
theorem shared_conjunction_folded_twice :
    (sharedRule.accept (Rule.evaluator (Criterion.answer
        (.plain [("a", .boolean true), ("b", .boolean true)])))).outcome [] = .ok true ∧
      (sharedRule.askedByFold (Criterion.answer
        (.plain [("a", .boolean true), ("b", .boolean true)])) []).map Prod.fst =
          [0, 1, 0, 1, 0] ∧
      (sharedRule.asked (Criterion.answer
        (.plain [("a", .boolean true), ("b", .boolean true)])) []).map Prod.fst = [0, 1] ∧
      ∃ part first second, sharedFlags.rule? 3 = some part ∧ sharedFlags.rule? 2 = some first ∧
        sharedFlags.rule? 0 = some second ∧
        part.describe Criterion.text = (first.accept (Rule.describer Criterion.text)).grouped ++
          " Xor " ++ (second.accept (Rule.describer Criterion.text)).grouped := by
  have answered : sharedRule.IsAnsweredUnder
      (Criterion.answer (.plain [("a", .boolean true), ("b", .boolean true)])) :=
    sharedRule.isAnsweredUnder_of_flags _ rfl
  obtain ⟨⟨verdict, judged, folded⟩, asksLeaves, -, -, sides⟩ :=
    fold_has_verdict_of_rule sharedFlags 4 sharedRule rfl rfl Criterion.text _ answered []
  obtain rfl : true = verdict := Except.ok.inj judged
  obtain ⟨part, first, second, read, leftRead, rightRead, takes⟩ := sides 3 2 0
    (.through 4 3 3 (.compound .disjunction [2, 3]) rfl (by simp [Shape.children]) (.self 3)) rfl
  exact ⟨folded, by rw [asksLeaves]; rfl, rfl, part, first, second, read, leftRead, rightRead,
    takes.described⟩

end Graph

end Eligibility
