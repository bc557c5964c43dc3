import Eligibility.Proofs.Rule.InTurn
import Eligibility.Proofs.Rule.Remainder

/-!
# Leaves that are asked

Which leaves a rule asks for its verdict, kind by kind, and which ones for its remainder.  Both are
part of the leaves from left to right: a verdict passes over the clauses behind the one that
settles it, and the remainder of a conjunction over the clauses behind one that fails.
-/

set_option autoImplicit false

namespace Eligibility

/-- A last step that only computes leaves the state as it is. -/
theorem Trial.after_bind_pure {State Kind Other : Type} (trial : Trial State Kind)
    (compute : Kind → Other) (state : State) :
    Trial.after (trial >>= fun value => pure (compute value)) state = trial.after state := by
  rw [Trial.after_bind]
  cases trial.outcome state <;> rfl

namespace Rule

variable {Label Criterion State : Type} (answer : Label → Criterion → Trial State Bool)

/-! ## For the verdict -/

section Verdicts

variable (state : State)

theorem outcome_recording (rule : Rule Label Criterion) (earlier : List (Label × Criterion)) :
    (rule.judge (recording answer)).outcome (state, earlier) =
      (rule.judge answer).outcome state := by
  rw [Trial.outcome, judge_recording]

theorem after_recording (rule : Rule Label Criterion) (earlier : List (Label × Criterion)) :
    (rule.judge (recording answer)).after (state, earlier) =
      ((rule.judge answer).after state, earlier ++ rule.asked answer state) := by
  rw [Trial.after, judge_recording]

@[simp]
theorem asked_leaf (label : Label) (criterion : Criterion) :
    asked answer (.leaf label criterion) state = [(label, criterion)] :=
  rfl

@[simp]
theorem asked_constant (label : Label) (verdict : Bool) :
    asked answer (.constant label verdict : Rule Label Criterion) state = [] :=
  rfl

theorem asked_compound (label : Label) (connective : Connective)
    (children : List (Rule Label Criterion)) :
    asked answer (.compound label connective children) state =
      askedInTurn answer connective children state := by
  cases children with
  | nil => rfl
  | cons child rest =>
      rw [asked, judge_compound _ _ _ _ (List.cons_ne_nil child rest), asked_inTurn,
        List.nil_append]

theorem asked_exclusive (label : Label) (left right : Rule Label Criterion) :
    asked answer (.exclusive label left right) state = left.asked answer state ++
      match (left.judge answer).outcome state with
      | .ok _ => right.asked answer ((left.judge answer).after state)
      | .error _ => [] := by
  rw [asked, judge, Trial.after_bind, outcome_recording, after_recording, List.nil_append]
  cases (left.judge answer).outcome state with
  | error fault => exact (List.append_nil _).symm
  | ok first =>
      dsimp only
      rw [Trial.after_bind_pure, after_recording]

theorem asked_negation (label : Label) (operand : Rule Label Criterion) :
    asked answer (.negation label operand) state = operand.asked answer state := by
  rw [asked, judge, Trial.after_bind_pure, asked]

end Verdicts

theorem askedInTurn_sublist (connective : Connective) (children : List (Rule Label Criterion))
    (each : ∀ child ∈ children, ∀ state, (child.asked answer state).Sublist child.leaves)
    (state : State) :
    (askedInTurn answer connective children state).Sublist (children.flatMap leaves) := by
  induction children generalizing state with
  | nil => exact .slnil
  | cons child rest ih =>
      obtain ⟨here, others⟩ := List.forall_mem_cons.mp each
      rw [askedInTurn, List.flatMap_cons]
      refine (here state).append ?_
      split
      · split
        · exact ih others _
        · exact List.nil_sublist _
      · exact List.nil_sublist _

/-- The leaves that are asked are some of the leaves, in the same order. -/
theorem asked_sublist_leaves (rule : Rule Label Criterion) (state : State) :
    (rule.asked answer state).Sublist rule.leaves := by
  induction rule using induct generalizing state with
  | leaf label criterion => exact .refl _
  | constant label verdict => exact .refl _
  | compound label connective children childInduction =>
      rw [asked_compound, leaves_compound]
      exact askedInTurn_sublist answer connective children childInduction state
  | exclusive label left right leftInduction rightInduction =>
      rw [asked_exclusive, leaves_exclusive]
      refine (leftInduction state).append ?_
      split
      · exact rightInduction _
      · exact List.nil_sublist _
  | negation label operand operandInduction =>
      rw [asked_negation, leaves_negation]
      exact operandInduction state

/-! ## For the remainder -/

def askedForRemainder (rule : Rule Label Criterion) (state : State) : List (Label × Criterion) :=
  ((rule.remainder (recording answer)).after (state, [])).2

/-- The leaves that rules ask one after the other, up to one that fails. -/
def askedOfEach : List (Rule Label Criterion) → State → List (Label × Criterion)
  | [], _ => []
  | rule :: rest, state => rule.asked answer state ++
    match (rule.judge answer).outcome state with
    | .ok _ => askedOfEach rest ((rule.judge answer).after state)
    | .error _ => []

def failing (children : List (Rule Label Criterion)) (verdicts : List Bool) :
    List (Rule Label Criterion) :=
  ((children.zip verdicts).filter fun judged => !judged.2).map Prod.fst

/-- The clauses are asked for their verdicts one after the other. -/
theorem unsatisfied_eq_mapM (children : List (Rule Label Criterion)) :
    unsatisfied answer children = (do
      let verdicts ← children.mapM (judge answer)
      return failing children verdicts) := by
  induction children with
  | nil => simp [unsatisfied, failing]
  | cons child rest ih =>
      rw [unsatisfied, ih, List.mapM_cons]
      simp only [bind_assoc, pure_bind]
      congr 1
      funext verdict
      congr 1
      funext others
      cases verdict <;> simp [failing]

theorem remainder_conjunction (label : Label) (children : List (Rule Label Criterion))
    (filled : children ≠ []) :
    remainder answer (.compound label .conjunction children) = (do
      let verdicts ← children.mapM (judge answer)
      return narrow (.compound label .conjunction children) children
        (failing children verdicts)) := by
  cases children with
  | nil => exact absurd rfl filled
  | cons child rest =>
      rw [remainder, unsatisfied_eq_mapM, bind_assoc]
      simp only [pure_bind]

theorem asked_mapM (children : List (Rule Label Criterion)) (state : State)
    (earlier : List (Label × Criterion)) :
    ((children.mapM (judge (recording answer))).after (state, earlier)).2 =
      earlier ++ askedOfEach answer children state := by
  induction children generalizing state earlier with
  | nil => exact (List.append_nil earlier).symm
  | cons child rest ih =>
      rw [List.mapM_cons, Trial.after_bind, outcome_recording, after_recording, askedOfEach]
      cases (child.judge answer).outcome state with
      | error fault => simp
      | ok verdict =>
          dsimp only
          rw [Trial.after_bind_pure, ih, List.append_assoc]

theorem askedForRemainder_conjunction (label : Label) (children : List (Rule Label Criterion))
    (state : State) :
    askedForRemainder answer (.compound label .conjunction children) state =
      askedOfEach answer children state := by
  cases children with
  | nil => rfl
  | cons child rest =>
      rw [askedForRemainder, remainder_conjunction _ _ _ (List.cons_ne_nil child rest),
        Trial.after_bind_pure, asked_mapM, List.nil_append]

theorem askedOfEach_sublist (children : List (Rule Label Criterion)) (state : State) :
    (askedOfEach answer children state).Sublist (children.flatMap leaves) := by
  induction children generalizing state with
  | nil => exact .slnil
  | cons child rest ih =>
      rw [askedOfEach, List.flatMap_cons]
      refine (asked_sublist_leaves answer child state).append ?_
      split
      · exact ih _
      · exact List.nil_sublist _

theorem askedForRemainder_whole (rule : Rule Label Criterion)
    (whole : rule.remainder (recording answer) = rule.wholeRemainder (recording answer))
    (state : State) : rule.askedForRemainder answer state = rule.asked answer state := by
  rw [askedForRemainder, whole, wholeRemainder, Trial.after_bind_pure, asked]

/-- The leaves that are asked for the remainder are some of the leaves, in the same order. -/
theorem askedForRemainder_sublist_leaves (rule : Rule Label Criterion) (state : State) :
    (rule.askedForRemainder answer state).Sublist rule.leaves := by
  rcases conjunction_or_whole (State × List (Label × Criterion)) rule with
    ⟨label, children, rfl⟩ | ⟨-, whole, -⟩
  · rw [askedForRemainder_conjunction, leaves_compound]
    exact askedOfEach_sublist answer children state
  · rw [askedForRemainder_whole answer rule (whole _)]
    exact asked_sublist_leaves answer rule state

end Rule

end Eligibility
