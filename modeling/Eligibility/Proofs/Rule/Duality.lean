import Eligibility.Graph.Answer
import Eligibility.Proofs.Rule.InTurn

/-!
# Duality

The dual of a rule exchanges conjunction with disjunction and each leaf with its negation.  It
asks the same leaves in the same order and fails where the rule fails; where the rule has a verdict
the dual has the opposite one.  This holds for any leaves, those that fail and those that answer
differently from call to call included: a clause settles a conjunction exactly when its negation
settles a disjunction.
-/

set_option autoImplicit false

namespace Eligibility

namespace Connective

def dual : Connective → Connective
  | .conjunction => .disjunction
  | .disjunction => .conjunction

@[simp]
theorem neutral_dual (connective : Connective) : connective.dual.neutral = !connective.neutral := by
  cases connective <;> rfl

end Connective

namespace Trial

variable {State : Type}

def negated (trial : Trial State Bool) : Trial State Bool := do
  let verdict ← trial
  return !verdict

theorem outcome_negated (trial : Trial State Bool) (state : State) :
    (negated trial).outcome state = (trial.outcome state).map fun verdict => !verdict := by
  rw [negated, outcome_bind]
  cases trial.outcome state <;> rfl

theorem after_negated (trial : Trial State Bool) (state : State) :
    (negated trial).after state = trial.after state := by
  rw [negated, after_bind]
  cases trial.outcome state <;> rfl

@[simp]
theorem negated_negated (trial : Trial State Bool) : negated (negated trial) = trial := by
  simp [negated]

/-- Trials in turn and their opposites are settled at the same place. -/
theorem inTurn_negated (connective : Connective) (trials : List (Trial State Bool)) :
    inTurn connective.dual (trials.map negated) = negated (inTurn connective trials) := by
  induction trials with
  | nil => simp [inTurn, negated]
  | cons trial rest ih =>
      simp only [List.map_cons, inTurn, ih, negated, bind_assoc, pure_bind,
        Connective.neutral_dual]
      congr 1
      funext verdict
      by_cases isNeutral : verdict = connective.neutral
      · simp [isNeutral]
      · simp [isNeutral]

end Trial

namespace Rule

section

variable {Label Criterion : Type}

mutual

/-- The rule with conjunction and disjunction exchanged, the constants too, and the leaves and
exclusive disjunctions negated. -/
def dual : Rule Label Criterion → Rule Label Criterion
  | .leaf label criterion => .negation label (.leaf label criterion)
  | .constant label verdict => .constant label !verdict
  | .compound label connective children => .compound label connective.dual (dualAll children)
  | .exclusive label left right => .negation label (.exclusive label left.dual right.dual)
  | .negation label operand => .negation label operand.dual

def dualAll : List (Rule Label Criterion) → List (Rule Label Criterion)
  | [] => []
  | child :: rest => child.dual :: dualAll rest

end

theorem dualAll_eq_map (children : List (Rule Label Criterion)) :
    dualAll children = children.map dual := by
  induction children with
  | nil => rfl
  | cons child rest ih => rw [dualAll, ih, List.map_cons]

theorem isFilled_dual (rule : Rule Label Criterion) : rule.dual.isFilled = rule.isFilled := by
  induction rule using induct with
  | leaf label criterion => rfl
  | constant label verdict => rfl
  | compound label connective children childInduction =>
      rw [Bool.eq_iff_iff, dual, dualAll_eq_map, isFilled_compound_iff, isFilled_compound_iff]
      refine and_congr (by simp) ?_
      simp only [List.forall_mem_map]
      exact forall₂_congr fun child member => by rw [childInduction child member]
  | exclusive label left right leftInduction rightInduction =>
      rw [dual, isFilled_negation, isFilled_exclusive, isFilled_exclusive, leftInduction,
        rightInduction]
  | negation label operand operandInduction =>
      rw [dual, isFilled_negation, isFilled_negation, operandInduction]

section

variable {State : Type} (answer : Label → Criterion → Trial State Bool)

theorem judge_negation (label : Label) (operand : Rule Label Criterion) :
    judge answer (.negation label operand) = Trial.negated (operand.judge answer) := by
  rw [judge, Trial.negated]

theorem judge_exclusive_of_negated (label : Label) (left right first second : Rule Label Criterion)
    (isFirst : first.judge answer = Trial.negated (left.judge answer))
    (isSecond : second.judge answer = Trial.negated (right.judge answer)) :
    judge answer (.exclusive label first second) = judge answer (.exclusive label left right) := by
  simp [judge, isFirst, isSecond, Trial.negated]

theorem judge_compound_of_negated (label other : Label) (connective : Connective)
    (children : List (Rule Label Criterion)) (filled : children ≠ [])
    (opposite : Rule Label Criterion → Rule Label Criterion)
    (negates : ∀ child ∈ children,
      (opposite child).judge answer = Trial.negated (child.judge answer)) :
    judge answer (.compound label connective.dual (children.map opposite)) =
      Trial.negated (judge answer (.compound other connective children)) := by
  rw [judge_compound answer label _ _ (by simpa using filled),
    judge_compound answer other connective children filled, ← Trial.inTurn_negated, List.map_map,
    List.map_map]
  congr 1
  exact List.map_congr_left negates

/-- The dual is the opposite trial: it leaves the same state and fails in the same way. -/
theorem judge_dual (rule : Rule Label Criterion) (filled : rule.isFilled = true) :
    rule.dual.judge answer = Trial.negated (rule.judge answer) := by
  induction rule using induct with
  | leaf label criterion => rw [dual, judge_negation]
  | constant label verdict => simp [dual, judge, Trial.negated]
  | compound label connective children childInduction =>
      obtain ⟨nonempty, childFilled⟩ := (isFilled_compound_iff label connective children).mp filled
      rw [dual, dualAll_eq_map]
      exact judge_compound_of_negated answer label label connective children nonempty dual
        fun child member => childInduction child member (childFilled child member)
  | exclusive label left right leftInduction rightInduction =>
      rw [isFilled_exclusive, Bool.and_eq_true] at filled
      rw [dual, judge_negation, judge_exclusive_of_negated answer label left right left.dual
        right.dual (leftInduction filled.1) (rightInduction filled.2)]
  | negation label operand operandInduction =>
      rw [dual, judge_negation, judge_negation, operandInduction filled]

end

/-- Two rules do the same: they have the same verdict or fault, leave the same state, and ask the
same leaves in the same order. -/
structure IsAlike (first second : Rule Label Criterion) : Prop where
  judged : ∀ (State : Type) (answer : Label → Criterion → Trial State Bool),
    first.judge answer = second.judge answer
  asks : ∀ (State : Type) (answer : Label → Criterion → Trial State Bool) (state : State),
    first.asked answer state = second.asked answer state

theorem isAlike_of_judged (first second : Rule Label Criterion)
    (judged : ∀ (State : Type) (answer : Label → Criterion → Trial State Bool),
      first.judge answer = second.judge answer) :
    first.IsAlike second where
  judged := judged
  asks := by
    intro State answer state
    rw [asked, asked, judged]

/-- The dual of a rule without an empty connective asks the same leaves in the same order from any
state, leaves the same state, and has the same fault or the opposite verdict.  So a negation can be
moved to the leaves, and the dual of the dual does what the rule does; and the laws of De Morgan,
of double negation and of the negated exclusive disjunction hold for any clauses. -/
theorem dual_opposes_rule (rule : Rule Label Criterion) (filled : rule.isFilled = true) :
    (∀ (State : Type) (answer : Label → Criterion → Trial State Bool) (state : State),
      rule.dual.asked answer state = rule.asked answer state ∧
      (rule.dual.judge answer).after state = (rule.judge answer).after state ∧
      (rule.dual.judge answer).outcome state =
        ((rule.judge answer).outcome state).map fun verdict => !verdict) ∧
    (∀ label, IsAlike (.negation label rule) rule.dual) ∧
    rule.dual.dual.IsAlike rule ∧
    (∀ label inner, IsAlike (.negation label (.negation inner rule)) rule) ∧
    (∀ label inner whole each connective (children : List (Rule Label Criterion)),
      children ≠ [] →
      IsAlike (.negation label (.compound inner connective children))
        (.compound whole connective.dual (children.map (.negation each)))) ∧
    ∀ label inner first second (left right : Rule Label Criterion),
      IsAlike (.negation label (.exclusive inner left right))
        (.negation label (.exclusive inner (.negation first left) (.negation second right))) := by
  refine ⟨?_, ?_, ?_, ?_, ?_, ?_⟩
  · intro State answer state
    refine ⟨?_, ?_, ?_⟩
    · rw [asked, judge_dual _ rule filled, Trial.after_negated, asked]
    · rw [judge_dual answer rule filled, Trial.after_negated]
    · rw [judge_dual answer rule filled, Trial.outcome_negated]
  · intro label
    apply isAlike_of_judged
    intro State answer
    rw [judge_negation, judge_dual answer rule filled]
  · apply isAlike_of_judged
    intro State answer
    have dualFilled : rule.dual.isFilled = true := by rw [isFilled_dual, filled]
    rw [judge_dual answer rule.dual dualFilled, judge_dual answer rule filled,
      Trial.negated_negated]
  · intro label inner
    apply isAlike_of_judged
    intro State answer
    rw [judge_negation, judge_negation, Trial.negated_negated]
  · intro label inner whole each connective children nonempty
    apply isAlike_of_judged
    intro State answer
    rw [judge_negation, judge_compound_of_negated answer whole inner connective children nonempty
      (.negation each) fun child _ => judge_negation answer each child]
  · intro label inner first second left right
    apply isAlike_of_judged
    intro State answer
    rw [judge_negation, judge_negation, judge_exclusive_of_negated answer inner left right _ _
      (judge_negation answer first left) (judge_negation answer second right)]

end

def wearingOut : Rule NodeId Criterion :=
  let script : Rule NodeId Criterion := .leaf 0 (.scripted
    ⟨"once", [.verdict true, .failure (.foreign "Error" "worn out")]⟩)
  .compound 4 .disjunction [.leaf 1 (.flagged "a"),
    .compound 3 .conjunction [script, .exclusive 2 script (.constant 5 true)]]

/-- Without the flag the second call fails, in the dual as in the rule; with the flag the dual is
not satisfied, and the script is not called. -/
theorem worn_out_script_fails_in_dual :
    wearingOut.isFilled = true ∧
      (wearingOut.dual.judge (Criterion.answer (.plain []))).outcome [] =
        .error (.foreign "Error" "worn out") ∧
      (wearingOut.dual.asked (Criterion.answer (.plain [])) []).map Prod.fst = [1, 0, 0] ∧
      (wearingOut.dual.judge (Criterion.answer (.plain [("a", .boolean true)]))).outcome [] =
        .ok false ∧
      (wearingOut.dual.asked (Criterion.answer (.plain [("a", .boolean true)])) []).map Prod.fst =
        [1] := by
  obtain ⟨opposes, -⟩ := dual_opposes_rule wearingOut rfl
  obtain ⟨failsAsked, -, fails⟩ := opposes _ (Criterion.answer (.plain [])) []
  obtain ⟨settledAsked, -, settled⟩ :=
    opposes _ (Criterion.answer (.plain [("a", .boolean true)])) []
  refine ⟨rfl, ?_, ?_, ?_, ?_⟩
  · rw [fails]
    rfl
  · rw [failsAsked]
    rfl
  · rw [settled]
    rfl
  · rw [settledAsked]
    rfl

end Rule

end Eligibility
