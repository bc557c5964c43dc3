import Eligibility.Proofs.Rule.Tree
import Eligibility.Proofs.Trial

/-!
# Rules asked in turn

The operands of a connective are asked from left to right, up to the first one that settles the
question or fails.  Asking a list in turn comes to the same however the list is cut into groups,
and for this reason clauses may be taken over from an operand with the same connective.
-/

set_option autoImplicit false

namespace Eligibility

namespace Trial

variable {State : Type}

/-- One trial after the other, up to the first whose verdict settles the question. -/
def inTurn (connective : Connective) : List (Trial State Bool) → Trial State Bool
  | [] => pure connective.neutral
  | trial :: rest => do
    let verdict ← trial
    if verdict = connective.neutral then
      inTurn connective rest
    else
      return verdict

theorem inTurn_single (connective : Connective) (trial : Trial State Bool) :
    inTurn connective [trial] = trial := by
  have settled : ∀ verdict : Bool,
      (if verdict = connective.neutral then inTurn connective [] else pure verdict :
        Trial State Bool) = pure verdict := by
    intro verdict
    by_cases isNeutral : verdict = connective.neutral
    · simp [isNeutral, inTurn]
    · simp [isNeutral]
  simp only [inTurn] at settled ⊢
  simp only [settled, bind_pure]

/-- A group of trials in front counts as one trial. -/
theorem inTurn_group (connective : Connective) (front back : List (Trial State Bool)) :
    inTurn connective (inTurn connective front :: back) = inTurn connective (front ++ back) := by
  induction front with
  | nil => simp [inTurn]
  | cons trial rest ih =>
      simp only [List.cons_append, inTurn, ← ih, bind_assoc]
      congr 1
      funext verdict
      by_cases isNeutral : verdict = connective.neutral
      · simp [isNeutral]
      · simp [isNeutral]

theorem inTurn_pair (connective : Connective) (front back : List (Trial State Bool)) :
    inTurn connective [inTurn connective front, inTurn connective back] =
      inTurn connective (front ++ back) := by
  rw [inTurn_group]
  induction front with
  | nil => simp [inTurn_single]
  | cons trial rest ih => simp only [List.cons_append, inTurn, ih]

end Trial

namespace Rule

variable {Label Criterion State : Type}

theorem judgeAll_eq_inTurn (answer : Label → Criterion → Trial State Bool)
    (connective : Connective) (rules : List (Rule Label Criterion)) :
    judgeAll answer connective rules = Trial.inTurn connective (rules.map (judge answer)) := by
  induction rules with
  | nil => rfl
  | cons rule rest ih =>
      rw [judgeAll, ih]
      rfl

theorem judge_compound (answer : Label → Criterion → Trial State Bool) (label : Label)
    (connective : Connective) (children : List (Rule Label Criterion)) (filled : children ≠ []) :
    judge answer (.compound label connective children) =
      Trial.inTurn connective (children.map (judge answer)) := by
  cases children with
  | nil => exact absurd rfl filled
  | cons child rest => rw [judge, judgeAll_eq_inTurn]

/-! ## The leaves that are asked -/

/-- The same answers, with a list of the leaves that were asked. -/
def recording (answer : Label → Criterion → Trial State Bool) (label : Label)
    (criterion : Criterion) : Trial (State × List (Label × Criterion)) Bool := fun earlier =>
  ((answer label criterion).outcome earlier.1,
    (answer label criterion).after earlier.1, earlier.2 ++ [(label, criterion)])

def asked (answer : Label → Criterion → Trial State Bool) (rule : Rule Label Criterion)
    (state : State) : List (Label × Criterion) :=
  ((rule.judge (recording answer)).after (state, [])).2

def askedInTurn (answer : Label → Criterion → Trial State Bool) (connective : Connective) :
    List (Rule Label Criterion) → State → List (Label × Criterion)
  | [], _ => []
  | rule :: rest, state => rule.asked answer state ++
    match (rule.judge answer).outcome state with
    | .ok verdict =>
      if verdict = connective.neutral then
        askedInTurn answer connective rest ((rule.judge answer).after state)
      else
        []
    | .error _ => []

section

variable {Kind Entry : Type}

/-- A trial that keeps a list does what another one does without, and adds to the list. -/
def Records (recorded : Trial (State × List Entry) Kind)
    (plain : Trial State Kind) : Prop :=
  ∀ state, ∃ added, ∀ earlier, recorded.run.run (state, earlier) =
    (plain.outcome state, plain.after state, earlier ++ added)

theorem records_pure (value : Kind) :
    Records (pure value : Trial (State × List Entry) Kind) (pure value : Trial State Kind) :=
  fun state => ⟨[], fun earlier => by rw [List.append_nil]; rfl⟩

theorem records_throw (fault : Fault) :
    Records (throw fault : Trial (State × List Entry) Kind) (throw fault : Trial State Kind) :=
  fun state => ⟨[], fun earlier => by rw [List.append_nil]; rfl⟩

theorem records_bind {Other : Type} (first : Trial (State × List Entry) Kind)
    (plain : Trial State Kind) (next : Kind → Trial (State × List Entry) Other)
    (plainNext : Kind → Trial State Other) (firstRecords : Records first plain)
    (nextRecords : ∀ value, Records (next value) (plainNext value)) :
    Records (first >>= next) (plain >>= plainNext) := by
  intro state
  obtain ⟨added, firstRun⟩ := firstRecords state
  have outcome : ∀ earlier, first.outcome (state, earlier) = plain.outcome state :=
    fun earlier => by rw [Trial.outcome, firstRun]
  have after : ∀ earlier, first.after (state, earlier) = (plain.after state, earlier ++ added) :=
    fun earlier => by rw [Trial.after, firstRun]
  -- what the second trial adds depends on the first one, so the cases come before the list
  cases result : plain.outcome state with
  | error fault =>
      refine ⟨added, fun earlier => ?_⟩
      rw [Trial.run_bind, outcome, after, Trial.outcome_bind, Trial.after_bind, result]
      rfl
  | ok value =>
      obtain ⟨later, nextRun⟩ := nextRecords value (plain.after state)
      refine ⟨added ++ later, fun earlier => ?_⟩
      rw [Trial.run_bind, outcome, after, Trial.outcome_bind, Trial.after_bind, result]
      simp only [nextRun, List.append_assoc]
      rfl

theorem records_inTurn (connective : Connective) (rules : List (Rule Label Criterion))
    (recorded : Rule Label Criterion → Trial (State × List Entry) Bool)
    (plain : Rule Label Criterion → Trial State Bool)
    (each : ∀ rule ∈ rules, Records (recorded rule) (plain rule)) :
    Records (Trial.inTurn connective (rules.map recorded))
      (Trial.inTurn connective (rules.map plain)) := by
  induction rules with
  | nil => exact records_pure connective.neutral
  | cons rule rest ih =>
      obtain ⟨here, others⟩ := List.forall_mem_cons.mp each
      refine records_bind _ _ _ _ here fun verdict => ?_
      split
      · exact ih others
      · exact records_pure verdict

end

theorem judge_records (answer : Label → Criterion → Trial State Bool)
    (rule : Rule Label Criterion) :
    Records (rule.judge (recording answer)) (rule.judge answer) := by
  induction rule using induct with
  | leaf label criterion =>
      rw [judge, judge]
      exact fun state => ⟨[(label, criterion)], fun earlier => rfl⟩
  | constant label verdict =>
      rw [judge, judge]
      exact records_pure verdict
  | compound label connective children childInduction =>
      cases children with
      | nil => exact records_throw _
      | cons child rest =>
          rw [judge_compound _ _ _ _ (by simp), judge_compound _ _ _ _ (by simp)]
          exact records_inTurn connective (child :: rest) _ _ childInduction
  | exclusive label left right leftInduction rightInduction =>
      rw [judge, judge]
      refine records_bind _ _ _ _ leftInduction fun first => ?_
      exact records_bind _ _ _ _ rightInduction fun second => records_pure (first != second)
  | negation label operand operandInduction =>
      rw [judge, judge]
      exact records_bind _ _ _ _ operandInduction fun verdict => records_pure (!verdict)

/-- A list of the leaves that are asked changes neither the verdict nor the state. -/
theorem judge_recording (answer : Label → Criterion → Trial State Bool)
    (rule : Rule Label Criterion) (state : State) (earlier : List (Label × Criterion)) :
    (rule.judge (recording answer)).run.run (state, earlier) =
      ((rule.judge answer).outcome state, (rule.judge answer).after state,
        earlier ++ rule.asked answer state) := by
  obtain ⟨added, run⟩ := judge_records answer rule state
  have sameLeaves : rule.asked answer state = added := by
    rw [asked, Trial.after, run, List.nil_append]
  rw [sameLeaves, run]

theorem asked_inTurn (answer : Label → Criterion → Trial State Bool) (connective : Connective)
    (rules : List (Rule Label Criterion)) (state : State) (earlier : List (Label × Criterion)) :
    ((Trial.inTurn connective (rules.map (judge (recording answer)))).after (state, earlier)).2 =
      earlier ++ askedInTurn answer connective rules state := by
  induction rules generalizing state earlier with
  | nil => exact (List.append_nil earlier).symm
  | cons rule rest ih =>
      have outcome : (rule.judge (recording answer)).outcome (state, earlier) =
          (rule.judge answer).outcome state := by
        rw [Trial.outcome, judge_recording]
      have after : (rule.judge (recording answer)).after (state, earlier) =
          ((rule.judge answer).after state, earlier ++ rule.asked answer state) := by
        rw [Trial.after, judge_recording]
      rw [List.map_cons, Trial.inTurn, Trial.after_bind, outcome, after, askedInTurn]
      cases (rule.judge answer).outcome state with
      | error fault => simp
      | ok verdict =>
          by_cases isNeutral : verdict = connective.neutral
          · simp [isNeutral, ih]
          · simp only [isNeutral, if_false, List.append_nil]
            rfl

/-- The rule does what asking the operands in turn does: it has the same verdict or fault, it
leaves the same state, and it asks the same leaves in the same order. -/
structure AsksInTurn (connective : Connective) (operands : List (Rule Label Criterion))
    (rule : Rule Label Criterion) : Prop where
  judged : ∀ (State : Type) (answer : Label → Criterion → Trial State Bool),
    rule.judge answer = Trial.inTurn connective (operands.map (judge answer))
  asks : ∀ (State : Type) (answer : Label → Criterion → Trial State Bool) (state : State),
    rule.asked answer state = askedInTurn answer connective operands state

theorem asksInTurn_of_judged (connective : Connective) (operands : List (Rule Label Criterion))
    (rule : Rule Label Criterion)
    (judged : ∀ (State : Type) (answer : Label → Criterion → Trial State Bool),
      rule.judge answer = Trial.inTurn connective (operands.map (judge answer))) :
    rule.AsksInTurn connective operands where
  judged := judged
  asks := by
    intro State answer state
    rw [asked, judged, asked_inTurn, List.nil_append]

end Rule

end Eligibility
