import Eligibility.Graph.Answer
import Eligibility.Proofs.Rule.Calls

/-!
# Places of leaves

A leaf that is part of a rule several times stands in several places, which are numbered from left
to right.  Rules can be put in the places of leaves.  A verdict depends on the places that are
asked for it and on no others: what is put in one of the others changes neither the verdict nor
the fault nor what is asked.
-/

set_option autoImplicit false

namespace Eligibility

namespace Rule

section

variable {Label Other Criterion State : Type}

/-! ## Numbers and grafts -/

mutual

/-- Puts a rule in the place of each leaf, and renames the labels of the other nodes. -/
def graft (leaf : Label → Criterion → Rule Other Criterion) (inner : Label → Other) :
    Rule Label Criterion → Rule Other Criterion
  | .leaf label criterion => leaf label criterion
  | .constant label verdict => .constant (inner label) verdict
  | .compound label connective children =>
    .compound (inner label) connective (graftAll leaf inner children)
  | .exclusive label left right =>
    .exclusive (inner label) (left.graft leaf inner) (right.graft leaf inner)
  | .negation label operand => .negation (inner label) (operand.graft leaf inner)

def graftAll (leaf : Label → Criterion → Rule Other Criterion) (inner : Label → Other) :
    List (Rule Label Criterion) → List (Rule Other Criterion)
  | [] => []
  | child :: rest => child.graft leaf inner :: graftAll leaf inner rest

end

mutual

/-- Adds its number to the label of each leaf, counting on from a number.  Any other node gets the
number of the first leaf behind it. -/
def numberedFrom (number : Nat) : Rule Label Criterion → Rule (Nat × Label) Criterion
  | .leaf label criterion => .leaf (number, label) criterion
  | .constant label verdict => .constant (number, label) verdict
  | .compound label connective children =>
    .compound (number, label) connective (numberedAllFrom number children)
  | .exclusive label left right =>
    .exclusive (number, label) (left.numberedFrom number)
      (right.numberedFrom (number + left.leaves.length))
  | .negation label operand => .negation (number, label) (operand.numberedFrom number)

def numberedAllFrom (number : Nat) :
    List (Rule Label Criterion) → List (Rule (Nat × Label) Criterion)
  | [] => []
  | child :: rest =>
    child.numberedFrom number :: numberedAllFrom (number + child.leaves.length) rest

end

def replaced (replacement : Nat → Option (Rule Label Criterion)) (rule : Rule Label Criterion) :
    Rule Label Criterion :=
  (rule.numberedFrom 0).graft
    (fun place criterion => (replacement place.1).getD (.leaf place.2 criterion)) Prod.snd

theorem graftAll_eq_map (leaf : Label → Criterion → Rule Other Criterion) (inner : Label → Other)
    (children : List (Rule Label Criterion)) :
    graftAll leaf inner children = children.map (graft leaf inner) := by
  induction children with
  | nil => rfl
  | cons child rest ih => rw [graftAll, ih, List.map_cons]

theorem graft_numberedFrom (rule : Rule Label Criterion) (number : Nat) :
    (rule.numberedFrom number).graft (fun place criterion => .leaf place.2 criterion) Prod.snd =
      rule := by
  induction rule using induct generalizing number with
  | leaf label criterion => rfl
  | constant label verdict => rfl
  | compound label connective children childInduction =>
      rw [numberedFrom, graft]
      congr 1
      induction children generalizing number with
      | nil => rfl
      | cons child rest ih =>
          obtain ⟨here, others⟩ := List.forall_mem_cons.mp childInduction
          rw [numberedAllFrom, graftAll, here, ih others]
  | exclusive label left right leftInduction rightInduction =>
      rw [numberedFrom, graft, leftInduction, rightInduction]
  | negation label operand operandInduction => rw [numberedFrom, graft, operandInduction]

theorem leaves_numberedFrom (rule : Rule Label Criterion) (number : Nat) :
    (rule.numberedFrom number).leaves =
      (rule.leaves.zipIdx number).map fun placed => ((placed.2, placed.1.1), placed.1.2) := by
  induction rule using induct generalizing number with
  | leaf label criterion => rfl
  | constant label verdict => rfl
  | compound label connective children childInduction =>
      rw [numberedFrom, leaves_compound, leaves_compound]
      induction children generalizing number with
      | nil => rfl
      | cons child rest ih =>
          obtain ⟨here, others⟩ := List.forall_mem_cons.mp childInduction
          rw [numberedAllFrom, List.flatMap_cons, List.flatMap_cons, here, ih others,
            List.zipIdx_append, List.map_append]
  | exclusive label left right leftInduction rightInduction =>
      rw [numberedFrom, leaves_exclusive, leaves_exclusive, leftInduction, rightInduction,
        List.zipIdx_append, List.map_append]
  | negation label operand operandInduction =>
      rw [numberedFrom, leaves_negation, leaves_negation, operandInduction]

/-! ## Two rules that are asked alike -/

def renamed (inner : Label → Other) (leaves : List (Label × Criterion)) :
    List (Other × Criterion) :=
  leaves.map fun leaf => (inner leaf.1, leaf.2)

section Mirror

variable (answer : Other → Criterion → Trial State Bool) (inner : Label → Other)

/-- A rule does the same as another one from a state, and asks the same leaves under other
labels. -/
structure Mirrors (mirror : Rule Other Criterion) (rule : Rule Label Criterion) (state : State) :
    Prop where
  runs : (mirror.judge answer).run.run state =
    (rule.judge fun label => answer (inner label)).run.run state
  asks : mirror.asked answer state =
    renamed inner (rule.asked (fun label => answer (inner label)) state)

variable {answer inner} {mirror : Rule Other Criterion} {rule : Rule Label Criterion}
  {state : State}

theorem Mirrors.outcome (mirrors : Mirrors answer inner mirror rule state) :
    (mirror.judge answer).outcome state =
      (rule.judge fun label => answer (inner label)).outcome state :=
  congrArg Prod.fst mirrors.runs

theorem Mirrors.after (mirrors : Mirrors answer inner mirror rule state) :
    (mirror.judge answer).after state =
      (rule.judge fun label => answer (inner label)).after state :=
  congrArg Prod.snd mirrors.runs

variable {leaf : Label → Criterion → Rule Other Criterion}

variable (inner leaf) in
def KeepsLeaves (leaves : List (Label × Criterion)) : Prop :=
  ∀ asked ∈ leaves, leaf asked.1 asked.2 = .leaf (inner asked.1) asked.2

variable (answer) in
theorem inTurn_mirrored (connective : Connective) (children : List (Rule Label Criterion))
    (each : ∀ child ∈ children, ∀ state,
      KeepsLeaves inner leaf (child.asked (fun label => answer (inner label)) state) →
        Mirrors answer inner (child.graft leaf inner) child state)
    (state : State)
    (kept : KeepsLeaves inner leaf
      (askedInTurn (fun label => answer (inner label)) connective children state)) :
    (Trial.inTurn connective ((children.map (graft leaf inner)).map (judge answer))).run.run state =
        (Trial.inTurn connective
          (children.map (judge fun label => answer (inner label)))).run.run state ∧
      askedInTurn answer connective (children.map (graft leaf inner)) state =
        renamed inner
          (askedInTurn (fun label => answer (inner label)) connective children state) := by
  induction children generalizing state with
  | nil => exact ⟨rfl, rfl⟩
  | cons child rest ih =>
      obtain ⟨here, others⟩ := List.forall_mem_cons.mp each
      rw [askedInTurn] at kept
      obtain ⟨keptHere, keptBehind⟩ := List.forall_mem_append.mp kept
      have mirrors := here state keptHere
      simp only [List.map_cons, Trial.inTurn, Trial.run_bind, askedInTurn, mirrors.outcome,
        mirrors.after, mirrors.asks]
      cases found : (child.judge fun label => answer (inner label)).outcome state with
      | error fault => simp [renamed]
      | ok verdict =>
          by_cases isNeutral : verdict = connective.neutral
          · -- only a verdict that leaves the question open has the other clauses asked
            simp only [found, isNeutral, if_true] at keptBehind ⊢
            obtain ⟨sameRun, sameAsked⟩ := ih others _ keptBehind
            exact ⟨sameRun, by rw [sameAsked]; simp [renamed]⟩
          · simp [isNeutral, renamed]

variable (answer inner leaf) in
/-- A rule with other rules in the places that it does not ask mirrors it. -/
theorem mirrors_graft (rule : Rule Label Criterion) (state : State)
    (kept : KeepsLeaves inner leaf (rule.asked (fun label => answer (inner label)) state)) :
    Mirrors answer inner (rule.graft leaf inner) rule state := by
  induction rule using induct generalizing state with
  | leaf label criterion =>
      have same : leaf label criterion = .leaf (inner label) criterion :=
        kept (label, criterion) (by simp)
      rw [graft, same]
      exact ⟨rfl, rfl⟩
  | constant label verdict => exact ⟨rfl, rfl⟩
  | compound label connective children childInduction =>
      rw [asked_compound] at kept
      obtain ⟨sameRun, sameAsked⟩ := inTurn_mirrored answer connective children childInduction state
        kept
      rw [graft, graftAll_eq_map]
      refine ⟨?_, by rw [asked_compound, asked_compound, sameAsked]⟩
      cases children with
      | nil => rfl
      | cons child rest =>
          rw [judge_compound _ _ _ _ (by simp), judge_compound _ _ _ _ (by simp), sameRun]
  | exclusive label left right leftInduction rightInduction =>
      rw [asked_exclusive] at kept
      obtain ⟨keptLeft, keptRight⟩ := List.forall_mem_append.mp kept
      have mirrorsLeft := leftInduction state keptLeft
      rw [graft]
      constructor
      · simp only [judge, Trial.run_bind, mirrorsLeft.outcome, mirrorsLeft.after]
        cases found : (left.judge fun label => answer (inner label)).outcome state with
        | error fault => rfl
        | ok first =>
            rw [found] at keptRight
            have mirrorsRight := rightInduction _ keptRight
            simp only [mirrorsRight.outcome, mirrorsRight.after]
      · simp only [asked_exclusive, mirrorsLeft.outcome, mirrorsLeft.after, mirrorsLeft.asks]
        cases found : (left.judge fun label => answer (inner label)).outcome state with
        | error fault => simp [renamed]
        | ok first =>
            rw [found] at keptRight
            simp [(rightInduction _ keptRight).asks, renamed]
  | negation label operand operandInduction =>
      rw [asked_negation] at kept
      have mirrors := operandInduction state kept
      rw [graft]
      constructor
      · simp only [judge, Trial.run_bind, mirrors.outcome, mirrors.after]
      · rw [asked_negation, asked_negation, mirrors.asks]

end Mirror

/-! ## Places -/

section Places

variable (answer : Label → Criterion → Trial State Bool) (rule : Rule Label Criterion)
  (state : State)

def places : List Nat :=
  ((rule.numberedFrom 0).asked (fun place => answer place.2) state).map (·.1.1)

def placesForRemainder : List Nat :=
  ((rule.numberedFrom 0).askedForRemainder (fun place => answer place.2) state).map (·.1.1)

theorem mirrors_numberedFrom (number : Nat) :
    Mirrors answer Prod.snd rule (rule.numberedFrom number) state := by
  have mirrors := mirrors_graft answer Prod.snd (fun place criterion => .leaf place.2 criterion)
    (rule.numberedFrom number) state fun _ _ => rfl
  rwa [graft_numberedFrom] at mirrors

theorem askedOfEach_numberedAllFrom (children : List (Rule Label Criterion)) (number : Nat) :
    askedOfEach answer children state = renamed Prod.snd
      (askedOfEach (fun place => answer place.2) (numberedAllFrom number children) state) := by
  induction children generalizing number state with
  | nil => rfl
  | cons child rest ih =>
      have mirrors := mirrors_numberedFrom answer child state number
      rw [numberedAllFrom, askedOfEach, askedOfEach, mirrors.outcome, mirrors.after, mirrors.asks]
      cases ((child.numberedFrom number).judge fun place => answer place.2).outcome state with
      | error fault => simp [renamed]
      | ok verdict => simp only [ih _ (number + child.leaves.length), renamed, List.map_append]

theorem askedForRemainder_numberedFrom (number : Nat) :
    rule.askedForRemainder answer state = renamed Prod.snd
      ((rule.numberedFrom number).askedForRemainder (fun place => answer place.2) state) := by
  have asks := (mirrors_numberedFrom answer rule state number).asks
  -- any other rule than a conjunction asks for its remainder what it asks for its verdict
  have alike := fun whole numberedWhole =>
    (askedForRemainder_whole answer rule whole state).trans (asks.trans (congrArg (renamed Prod.snd)
      (askedForRemainder_whole (fun place => answer place.2) (rule.numberedFrom number)
        numberedWhole state).symm))
  cases rule with
  | compound label connective children =>
      cases connective with
      | conjunction =>
          rw [numberedFrom, askedForRemainder_conjunction, askedForRemainder_conjunction]
          exact askedOfEach_numberedAllFrom answer state children number
      | disjunction => exact alike rfl rfl
  | leaf label criterion => exact alike rfl rfl
  | constant label verdict => exact alike rfl rfl
  | exclusive label left right => exact alike rfl rfl
  | negation label operand => exact alike rfl rfl

variable {rule} in
/-- Leaves of a numbered rule in order have increasing numbers, and each number is a place. -/
theorem placed_of_sublist (asked : List ((Nat × Label) × Criterion))
    (inOrder : asked.Sublist (rule.numberedFrom 0).leaves) :
    (asked.map (·.1.1)).Pairwise (· < ·) ∧
      (asked.map (·.1.1)).map (rule.leaves[·]?) = (renamed Prod.snd asked).map some := by
  rw [leaves_numberedFrom] at inOrder
  constructor
  · have numbers := inOrder.map (·.1.1)
    rw [List.map_map] at numbers
    refine List.Pairwise.sublist numbers ?_
    rw [show ((·.1.1) ∘ fun placed : (Label × Criterion) × Nat =>
        ((placed.2, placed.1.1), placed.1.2)) = Prod.snd from rfl, List.zipIdx_map_snd]
    exact List.pairwise_lt_range'
  · rw [renamed, List.map_map, List.map_map]
    refine List.map_congr_left fun place member => ?_
    obtain ⟨placed, inside, rfl⟩ := List.mem_map.mp (inOrder.subset member)
    exact List.mem_zipIdx_iff_getElem?.mp inside

end Places

/-- The places that a verdict or a remainder asks increase from call to call, so every leaf is
asked where it stands in order and at most once.  The remainder of a conjunction takes the verdict
of every clause in order, up to one that fails.  Rules that are put in places that the verdict did
not ask change neither the verdict nor the fault nor the state nor the leaves that are asked. -/
theorem leaves_asked_in_order_others_irrelevant (answer : Label → Criterion → Trial State Bool)
    (rule : Rule Label Criterion) (state : State) :
    (rule.places answer state).Pairwise (· < ·) ∧
    (rule.places answer state).map (rule.leaves[·]?) = (rule.asked answer state).map some ∧
    (rule.placesForRemainder answer state).Pairwise (· < ·) ∧
    (rule.placesForRemainder answer state).map (rule.leaves[·]?) =
      (rule.askedForRemainder answer state).map some ∧
    (∀ label children, rule = .compound label .conjunction children → children ≠ [] →
      rule.remainder answer = (do
        let verdicts ← children.mapM (judge answer)
        return rule.narrow children (failing children verdicts))) ∧
    ∀ replacement : Nat → Option (Rule Label Criterion),
      (∀ place ∈ rule.places answer state, replacement place = none) →
      ((rule.replaced replacement).judge answer).run.run state =
        (rule.judge answer).run.run state ∧
      (rule.replaced replacement).asked answer state = rule.asked answer state := by
  have numbered := mirrors_numberedFrom answer rule state 0
  obtain ⟨ordered, placed⟩ := placed_of_sublist _
    (asked_sublist_leaves (fun place => answer place.2) (rule.numberedFrom 0) state)
  obtain ⟨remainderOrdered, remainderPlaced⟩ := placed_of_sublist _
    (askedForRemainder_sublist_leaves (fun place => answer place.2) (rule.numberedFrom 0) state)
  refine ⟨ordered, ?_, remainderOrdered, ?_, ?_, ?_⟩
  · rw [numbered.asks]
    exact placed
  · rw [askedForRemainder_numberedFrom answer rule state 0]
    exact remainderPlaced
  · rintro label children rfl filled
    exact remainder_conjunction answer label children filled
  · intro replacement unasked
    have mirrors := mirrors_graft answer Prod.snd
      (fun place criterion => (replacement place.1).getD (.leaf place.2 criterion))
      (rule.numberedFrom 0) state fun asked member => by
        dsimp only
        rw [unasked asked.1.1 (List.mem_map_of_mem member), Option.getD_none]
    exact ⟨mirrors.runs.trans numbered.runs.symm, mirrors.asks.trans numbered.asks.symm⟩

end

def refusal : Criterion :=
  .scripted ⟨"refusal", [.verdict false, .failure (.foreign "Error" "worn out")]⟩

def refusedTwice : Rule NodeId Criterion :=
  .compound 4 .conjunction
    [.compound 3 .disjunction [.leaf 1 (.flagged "a"), .leaf 0 refusal], .leaf 0 refusal,
      .leaf 2 .unfinished]

def substitute (place : Nat) : Option (Rule NodeId Criterion) :=
  if place = 1 then some (.leaf 2 .unfinished)
  else if place = 3 then some (.compound 5 .disjunction [])
  else none

/-- With the flag set, the script is asked in its second place only and settles the verdict, so
rules that fail can stand in the two places that are not asked.  The remainder goes on to the last
place and fails there. -/
theorem refusal_settles_before_substitutes :
    refusedTwice.places (Criterion.answer (.plain [("a", .boolean true)])) [] = [0, 2] ∧
      (refusedTwice.asked (Criterion.answer (.plain [("a", .boolean true)])) []).map some =
        [some (1, .flagged "a"), some (0, refusal)] ∧
      (refusedTwice.remainder (Criterion.answer (.plain [("a", .boolean true)]))).outcome [] =
        .error (.unimplemented "Incomplete" "isSatisfiedBy") ∧
      ((refusedTwice.replaced substitute).judge
        (Criterion.answer (.plain [("a", .boolean true)]))).outcome [] = .ok false ∧
      (refusedTwice.replaced substitute).asked
        (Criterion.answer (.plain [("a", .boolean true)])) [] =
          [(1, .flagged "a"), (0, refusal)] := by
  obtain ⟨-, placed, -, -, inTurn, irrelevant⟩ := leaves_asked_in_order_others_irrelevant
    (Criterion.answer (.plain [("a", .boolean true)])) refusedTwice []
  obtain ⟨sameRun, sameAsked⟩ := irrelevant substitute (by
    intro place member
    have isAsked : place = 0 ∨ place = 2 := by
      simpa using (show place ∈ [0, 2] from member)
    rcases isAsked with rfl | rfl <;> rfl)
  refine ⟨rfl, placed.symm, ?_, congrArg Prod.fst sameRun, sameAsked⟩
  rw [inTurn 4 _ rfl (List.cons_ne_nil _ _)]
  rfl

end Rule

end Eligibility
