import Eligibility.Proofs.Remainder.Explanation
import Mathlib.Data.List.MinMax

/-!
# Narrowing

What is left of a rejected rule is rejected too, so the remainder can be taken again and again.
Each step either leaves the rule as it is or descends into a clause of a conjunction, and a
conjunction of clauses that are all unsatisfied stays.  So after at most as many steps as
conjunctions are nested the remainder is the rule itself.
-/

set_option autoImplicit false

namespace Eligibility

namespace Rule

section

variable {Label Criterion State : Type}

/-! ## Depth -/

/-- Measures how deep conjunctions are nested in each other directly.  Those inside of any other
rule do not count. -/
def conjunctionMeter : Visitor Label Criterion Nat where
  leaf _ _ := 0
  constant _ := 0
  compound connective depths :=
    match connective with
    | .conjunction => depths.foldr max 0 + 1
    | .disjunction => 0
  exclusive _ _ := 0
  negation _ := 0

def conjunctionDepth (rule : Rule Label Criterion) : Nat :=
  rule.accept conjunctionMeter

theorem conjunctionDepth_conjunction (label : Label) (children : List (Rule Label Criterion)) :
    conjunctionDepth (.compound label .conjunction children) =
      (children.map conjunctionDepth).foldr max 0 + 1 := by
  rw [conjunctionDepth, accept, acceptAll_eq_map]
  rfl

theorem conjunctionDepth_clause (label : Label) (children : List (Rule Label Criterion)) :
    ∀ child ∈ children,
      child.conjunctionDepth < conjunctionDepth (.compound label .conjunction children) := by
  intro child member
  rw [conjunctionDepth_conjunction]
  exact Nat.lt_succ_of_le (List.le_max_of_le' 0 (List.mem_map_of_mem member) le_rfl)

/-! ## Rejected rules -/

variable (answer : Label → Criterion → Trial State Bool)

/-- A rule that is not satisfied, over leaves that have a verdict and without empty connectives. -/
structure IsRejectedUnder (rule : Rule Label Criterion) : Prop where
  filled : rule.isFilled = true
  answered : rule.IsAnsweredUnder answer
  unsatisfied : rule.IsUnsatisfiedUnder answer

def IsItsRemainder (rule : Rule Label Criterion) : Prop :=
  ∀ state, (rule.remainder answer).outcome state = .ok (some (.existing rule))

variable {answer}

theorem isItsRemainder_of_whole (rule : Rule Label Criterion)
    (whole : rule.remainder answer = rule.wholeRemainder answer)
    (unsatisfied : rule.IsUnsatisfiedUnder answer) : rule.IsItsRemainder answer := by
  intro state
  rw [whole, wholeRemainder_outcome, unsatisfied state]
  rfl

theorem narrow_eq_narrowed (rule : Rule Label Criterion)
    (children unsatisfied clauses : List (Rule Label Criterion))
    (narrowed : rule.narrow children unsatisfied = some (.narrowed clauses)) :
    2 ≤ clauses.length := by
  rcases unsatisfied with _ | ⟨first, _ | ⟨second, others⟩⟩
  · cases narrowed
  · cases narrowed
  · have several : (if (first :: second :: others).length = children.length then
        some (Remainder.existing rule) else some (.narrowed (first :: second :: others))) =
        some (.narrowed clauses) := narrowed
    split at several
    · cases several
    · cases several
      simp

theorem narrow_eq_self (rule : Rule Label Criterion) (children : List (Rule Label Criterion))
    (test : Rule Label Criterion → Bool) (smaller : ∀ child ∈ children, child ≠ rule)
    (same : rule.narrow children (children.filter test) = some (.existing rule)) :
    2 ≤ children.length ∧ children.filter test = children := by
  rcases failing : children.filter test with _ | ⟨first, _ | ⟨second, others⟩⟩
  · rw [failing] at same
    cases same
  · rw [failing] at same
    cases same
    exact absurd rfl (smaller rule (List.mem_filter.mp (failing ▸ List.mem_singleton_self rule)).1)
  · rw [failing] at same
    have several : (if (first :: second :: others).length = children.length then
        some (Remainder.existing rule) else some (.narrowed (first :: second :: others))) =
        some (.existing rule) := same
    split at several
    next all =>
      refine ⟨by rw [← all]; simp, ?_⟩
      rw [← failing]
      exact List.filter_sublist.eq_of_length (by rw [failing, all])
    next => cases several

section Conjunctions

variable {label : Label} {children : List (Rule Label Criterion)}

theorem isUnsatisfied_eq_true (child : Rule Label Criterion)
    (unsatisfied : child.IsUnsatisfiedUnder answer) (state : State) :
    child.isUnsatisfied answer state = true :=
  (isUnsatisfied_iff answer state child).mpr (unsatisfied state)

theorem isItsRemainder_of_clauses
    (filled : isFilled (.compound label .conjunction children) = true)
    (answered : IsAnsweredUnder answer (.compound label .conjunction children))
    (several : 2 ≤ children.length)
    (unsatisfied : ∀ child ∈ children, child.IsUnsatisfiedUnder answer) :
    IsItsRemainder answer (.compound label .conjunction children) := by
  intro state
  have allFail : children.filter (isUnsatisfied answer state) = children :=
    List.filter_eq_self.mpr fun child member =>
      isUnsatisfied_eq_true child (unsatisfied child member) state
  rw [remainder_narrowed answer label children answered filled state, allFail]
  rcases children with _ | ⟨first, _ | ⟨second, others⟩⟩
  · simp at several
  · simp at several
  · exact congrArg Except.ok (if_pos rfl)

/-- A conjunction that is its own remainder has several clauses and none of them is satisfied. -/
theorem clauses_of_isItsRemainder
    (rejected : IsRejectedUnder answer (.compound label .conjunction children)) (state : State)
    (itself : IsItsRemainder answer (.compound label .conjunction children)) :
    2 ≤ children.length ∧ ∀ child ∈ children, child.IsUnsatisfiedUnder answer := by
  have remains := itself state
  rw [remainder_narrowed answer label children rejected.answered rejected.filled state,
    Except.ok.injEq] at remains
  obtain ⟨several, allFail⟩ := narrow_eq_self _ children _ (fun child member same =>
    Nat.lt_irrefl _ (same ▸ conjunctionDepth_clause label children child member)) remains
  refine ⟨several, fun child member => ?_⟩
  exact (isUnsatisfied_iff_of_decided answer child (clauses_decided answer label children
    rejected.answered rejected.filled state child member) state).mp
      (List.filter_eq_self.mp allFail child member)

theorem isRejected_of_clauses (root : Label) (clauses : List (Rule Label Criterion))
    (inside : ∀ clause ∈ clauses, clause ∈ children) (nonempty : clauses ≠ [])
    (rejected : IsRejectedUnder answer (.compound label .conjunction children))
    (unsatisfied : IsUnsatisfiedUnder answer (.compound root .conjunction clauses)) :
    IsRejectedUnder answer (.compound root .conjunction clauses) where
  filled := (isFilled_compound_iff ..).mpr ⟨nonempty, fun clause member =>
    ((isFilled_compound_iff ..).mp rejected.filled).2 clause (inside clause member)⟩
  answered := by
    intro leaf member
    rw [leaves_compound, List.mem_flatMap] at member
    obtain ⟨clause, clauseMember, inClause⟩ := member
    exact isAnsweredUnder_part answer _ clause rejected.answered (inside clause clauseMember) leaf
      inClause
  unsatisfied := unsatisfied

theorem isRejected_clause
    (rejected : IsRejectedUnder answer (.compound label .conjunction children))
    (child : Rule Label Criterion) (member : child ∈ children)
    (unsatisfied : child.IsUnsatisfiedUnder answer) : child.IsRejectedUnder answer where
  filled := ((isFilled_compound_iff ..).mp rejected.filled).2 child member
  answered := isAnsweredUnder_part answer _ child rejected.answered member
  unsatisfied := unsatisfied

end Conjunctions

/-- What a step of narrowing makes of a rejected rule: one that is rejected again, and that either
stays as it is from then on or has fewer conjunctions nested in each other. -/
structure NarrowsTo (answer : Label → Criterion → Trial State Bool) (rule : Rule Label Criterion)
    (left : Remainder Label Criterion) : Prop where
  remains : ∀ state, (rule.remainder answer).outcome state = .ok (some left)
  fromParts : ∀ source ∈ left.sources, source = rule ∨ source ∈ rule.parts
  rejected : ∀ root, (left.toRule root).IsRejectedUnder answer
  descends : ∀ root, (left.toRule root).IsItsRemainder answer ∨
    (left.toRule root).conjunctionDepth < rule.conjunctionDepth

theorem narrowsTo_of_isItsRemainder (rule : Rule Label Criterion)
    (rejected : rule.IsRejectedUnder answer) (itself : rule.IsItsRemainder answer) :
    NarrowsTo answer rule (.existing rule) where
  remains := itself
  fromParts := by simp [Remainder.sources]
  rejected _ := rejected
  descends _ := .inl itself

theorem isItsRemainder_of_shallow (rule : Rule Label Criterion)
    (rejected : rule.IsRejectedUnder answer) (shallow : rule.conjunctionDepth = 0) :
    rule.IsItsRemainder answer := by
  rcases conjunction_or_whole State rule with ⟨label, children, rfl⟩ | ⟨-, whole, -⟩
  · rw [conjunctionDepth_conjunction] at shallow
    cases shallow
  · exact isItsRemainder_of_whole rule (whole answer) rejected.unsatisfied

/-- The step of narrowing. -/
theorem narrows (rule : Rule Label Criterion) (rejected : rule.IsRejectedUnder answer)
    (state : State) : ∃ left, NarrowsTo answer rule left := by
  rcases conjunction_or_whole State rule with ⟨label, children, rfl⟩ | ⟨-, whole, -⟩
  · have steady := steady_of_answered answer _ rejected.answered
    have decided := clauses_decided answer label children rejected.answered rejected.filled state
    have someFail := some_clause_fails answer label children steady decided state
      (rejected.unsatisfied state)
    have failing : ∀ clause ∈ children.filter (isUnsatisfied answer state),
        clause ∈ children ∧ clause.IsUnsatisfiedUnder answer := by
      intro clause member
      obtain ⟨inside, fails⟩ := List.mem_filter.mp member
      exact ⟨inside, (isUnsatisfied_iff_of_decided answer clause (decided clause inside) state).mp
        fails⟩
    obtain ⟨left, narrowed, fromRule, unsatisfied⟩ := narrowed_unsatisfied answer label children
      state (conjuncts_steady answer _ steady) someFail (rejected.unsatisfied state)
    have remains : ∀ later,
        (remainder answer (.compound label .conjunction children)).outcome later =
          .ok (some left) := by
      intro later
      rw [remainder_steady answer _ steady later state,
        remainder_narrowed answer label children rejected.answered rejected.filled state, narrowed]
    rcases narrow_cases (.compound label .conjunction children) children
      (isUnsatisfied answer state) someFail with ⟨only, alone, found⟩ | ⟨-, found⟩ | found
    · -- the only unsatisfied clause
      rw [found, Option.some.injEq] at narrowed
      subst narrowed
      obtain ⟨inside, fails⟩ := failing only (by simp [alone])
      exact ⟨_, remains, fromRule, fun _ => isRejected_clause rejected only inside fails,
        fun _ => .inr (conjunctionDepth_clause label children only inside)⟩
    · rw [found, Option.some.injEq] at narrowed
      subst narrowed
      exact ⟨_, narrowsTo_of_isItsRemainder _ rejected remains⟩
    · -- several unsatisfied clauses, which make a conjunction of their own
      rw [found, Option.some.injEq] at narrowed
      subst narrowed
      have newRejected : ∀ root, IsRejectedUnder answer
          (.compound root .conjunction (children.filter (isUnsatisfied answer state))) := by
        intro root
        refine isRejected_of_clauses root _ (fun clause member => (failing clause member).1)
          someFail rejected fun later => ?_
        have newSteady : IsSteadyUnder answer
            (.compound root .conjunction (children.filter (isUnsatisfied answer state))) := by
          intro leaf member
          rw [leaves_compound, List.mem_flatMap] at member
          obtain ⟨clause, clauseMember, inClause⟩ := member
          exact isSteadyUnder_part answer _ clause steady (failing clause clauseMember).1 leaf
            inClause
        rw [judge_steady answer _ newSteady later state]
        exact unsatisfied root
      exact ⟨_, remains, fromRule, newRejected, fun root => .inl (isItsRemainder_of_clauses
        (newRejected root).filled (newRejected root).answered
        (narrow_eq_narrowed _ _ _ _ found) fun clause member => (failing clause member).2)⟩
  · exact ⟨_, narrowsTo_of_isItsRemainder rule rejected
      (isItsRemainder_of_whole rule (whole answer) rejected.unsatisfied)⟩

end

end Rule

namespace Graph

section

variable {Criterion State : Type} (answer : NodeId → Criterion → Trial State Bool)

/-- Replaces a node by the node of what is left of the rule below it, a number of times in a row.
Nothing comes of it once nothing is left. -/
def narrowed : Nat → NodeId × Graph Criterion → Trial State (Option (NodeId × Graph Criterion))
  | 0, reached => return some reached
  | steps + 1, reached =>
    match reached.2.rule? reached.1 with
    | none => throw (.composition .circular)
    | some rule => do
      match ← rule.remainder answer with
      | none => return none
      | some left => narrowed steps (reached.2.place left)

variable {answer}

theorem narrowed_succ (steps : Nat) (reached : NodeId × Graph Criterion)
    (rule : Rule NodeId Criterion) (left : Rule.Remainder NodeId Criterion)
    (unfolded : reached.2.rule? reached.1 = some rule)
    (remains : ∀ state, (rule.remainder answer).outcome state = .ok (some left)) (state : State) :
    ∃ later, (narrowed answer (steps + 1) reached).outcome state =
      (narrowed answer steps (reached.2.place left)).outcome later := by
  refine ⟨(rule.remainder answer).after state, ?_⟩
  rw [narrowed, unfolded]
  change Trial.outcome (rule.remainder answer >>= _) state = _
  rw [Trial.outcome_bind, remains state]
  rfl

theorem narrowed_of_isItsRemainder (steps : Nat) (reached : NodeId × Graph Criterion)
    (rule : Rule NodeId Criterion) (unfolded : reached.2.rule? reached.1 = some rule)
    (itself : rule.IsItsRemainder answer) (state : State) :
    (narrowed answer steps reached).outcome state = .ok (some reached) := by
  induction steps generalizing state with
  | zero => rfl
  | succ steps ih =>
      obtain ⟨later, same⟩ := narrowed_succ steps reached rule _ unfolded itself state
      obtain ⟨isRoot, -⟩ := (rule?_eq_some_iff ..).mp unfolded
      have stays : reached.2.place (.existing rule) = reached := by
        rw [place, isRoot]
      rw [same, stays, ih later]

/-- The run of narrowing: the measure is the depth of conjunctions, and a rule that is its own
remainder is where the run stays. -/
theorem narrowed_of_rejected (steps : Nat) (reached : NodeId × Graph Criterion)
    (rule : Rule NodeId Criterion) (unfolded : reached.2.rule? reached.1 = some rule)
    (rejected : rule.IsRejectedUnder answer) (state : State) :
    ∃ final last, (narrowed answer steps reached).outcome state = .ok (some final) ∧
      final.2.rule? final.1 = some last ∧ last.IsRejectedUnder answer ∧
      (rule.conjunctionDepth ≤ steps → last.IsItsRemainder answer) := by
  induction steps generalizing reached rule state with
  | zero =>
      exact ⟨reached, rule, rfl, unfolded, rejected, fun shallow =>
        Rule.isItsRemainder_of_shallow rule rejected (Nat.le_zero.mp shallow)⟩
  | succ steps ih =>
      obtain ⟨left, step⟩ := Rule.narrows rule rejected state
      obtain ⟨-, held⟩ := (rule?_eq_some_iff ..).mp unfolded
      obtain ⟨next, placed, root, rfl⟩ := holds_of_place reached.2 left fun source member => by
        rcases step.fromParts source member with rfl | isPart
        · exact held
        · exact holds_of_part reached.2 rule source held isPart
      obtain ⟨later, same⟩ := narrowed_succ steps reached rule left unfolded step.remains state
      obtain ⟨final, last, narrows, lastUnfolded, lastRejected, settles⟩ :=
        ih (reached.2.place left) (left.toRule root) placed (step.rejected root) later
      refine ⟨final, last, same.trans narrows, lastUnfolded, lastRejected, fun shallow => ?_⟩
      rcases step.descends root with itself | descends
      · have stays := narrowed_of_isItsRemainder steps _ _ placed itself later
        rw [narrows, Except.ok.injEq, Option.some.injEq] at stays
        rw [stays, placed, Option.some.injEq] at lastUnfolded
        exact lastUnfolded ▸ itself
      · exact settles (by omega)

/-- To narrow a rejected node never leaves nothing, and all the nodes that it leads to are rejected.
After as many steps as conjunctions are nested in each other it is at a node that stays as it is;
if that is a conjunction, it has several clauses and none of them is satisfied. -/
theorem narrowing_ends_in_minimal_explanation (graph : Graph Criterion) (id : NodeId)
    (rule : Rule NodeId Criterion) (unfolded : graph.rule? id = some rule)
    (filled : rule.isFilled = true) (answered : rule.IsAnsweredUnder answer)
    (rejected : rule.IsUnsatisfiedUnder answer) (steps : Nat) (state : State) :
    ∃ final last, (narrowed answer steps (id, graph)).outcome state = .ok (some final) ∧
      final.2.rule? final.1 = some last ∧ last.IsUnsatisfiedUnder answer ∧
      (rule.conjunctionDepth ≤ steps →
        (∀ further later, (narrowed answer further final).outcome later = .ok (some final)) ∧
        ∀ label children, last = .compound label .conjunction children →
          2 ≤ children.length ∧ ∀ child ∈ children, child.IsUnsatisfiedUnder answer) := by
  obtain ⟨final, last, narrows, lastUnfolded, lastRejected, settles⟩ :=
    narrowed_of_rejected steps (id, graph) rule unfolded ⟨filled, answered, rejected⟩ state
  refine ⟨final, last, narrows, lastUnfolded, lastRejected.unsatisfied, fun deep => ⟨?_, ?_⟩⟩
  · exact fun further later =>
      narrowed_of_isItsRemainder further final last lastUnfolded (settles deep) later
  · rintro label children rfl
    exact Rule.clauses_of_isItsRemainder lastRejected state (settles deep)

end

def layeredFlags : Graph Criterion :=
  ⟨#[⟨.leaf (.flagged "a"), false⟩, ⟨.leaf (.flagged "b"), false⟩, ⟨.leaf (.flagged "c"), false⟩,
    ⟨.leaf (.flagged "d"), false⟩, ⟨.compound .conjunction [0, 2, 3], false⟩,
    ⟨.compound .conjunction [4, 1], false⟩, ⟨.compound .conjunction [0, 5], false⟩]⟩

def layeredRule : Rule NodeId Criterion :=
  .compound 6 .conjunction [.leaf 0 (.flagged "a"),
    .compound 5 .conjunction [
      .compound 4 .conjunction [.leaf 0 (.flagged "a"), .leaf 2 (.flagged "c"),
        .leaf 3 (.flagged "d")],
      .leaf 1 (.flagged "b")]]

/-- With two flags set, the second step is at the innermost conjunction, and the third and last at
a new conjunction of its other two flags. -/
theorem layers_narrowed_to_new_conjunction :
    layeredFlags.rule? 6 = some layeredRule ∧
    (narrowed (Criterion.answer (.plain [("a", .boolean true), ("b", .boolean true)])) 2
      (6, layeredFlags)).outcome [] = .ok (some (4, layeredFlags)) ∧
    ∃ final, (narrowed (Criterion.answer (.plain [("a", .boolean true), ("b", .boolean true)])) 3
        (6, layeredFlags)).outcome [] = .ok (some final) ∧
      final.2.rule? final.1 =
        some (.compound 7 .conjunction [.leaf 2 (.flagged "c"), .leaf 3 (.flagged "d")]) ∧
      ∀ further later,
        (narrowed (Criterion.answer (.plain [("a", .boolean true), ("b", .boolean true)])) further
          final).outcome later = .ok (some final) := by
  have answered : layeredRule.IsAnsweredUnder
      (Criterion.answer (.plain [("a", .boolean true), ("b", .boolean true)])) :=
    layeredRule.isAnsweredUnder_of_flags _ rfl
  obtain ⟨final, last, narrows, placed, -, settles⟩ :=
    narrowing_ends_in_minimal_explanation layeredFlags 6 layeredRule rfl rfl answered
      (fun _ => rfl) 3 []
  refine ⟨rfl, rfl, final, narrows, ?_, (settles (by decide)).1⟩
  cases narrows
  rfl

end Graph

end Eligibility
