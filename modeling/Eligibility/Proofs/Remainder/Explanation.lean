import Eligibility.Proofs.Remainder.Agreement
import Eligibility.Proofs.Rule.Criteria

/-!
# Remainders explain rejections

What is left of a conjunction is satisfied exactly when all the clauses are satisfied that the
subject did not satisfy.  So the whole is satisfied exactly when that much is made good and the
clauses that the subject satisfied still are.
-/

set_option autoImplicit false

namespace Eligibility

namespace Rule

section

variable {Label Criterion State : Type} (answer : Label → Criterion → Trial State Bool)

theorem conjunction_satisfied_iff (label : Label) (children : List (Rule Label Criterion))
    (filled : children ≠ []) (childSteady : ∀ child ∈ children, (child.judge answer).IsSteady) :
    IsSatisfiedUnder answer (.compound label .conjunction children) ↔
      ∀ child ∈ children, child.IsSatisfiedUnder answer := by
  have atState : ∀ state, (judge answer (.compound label .conjunction children)).outcome state =
      .ok true ↔ ∀ child ∈ children, (child.judge answer).outcome state = .ok true := by
    intro state
    rw [judge_conjunction_outcome answer label children filled]
    exact judgeAll_neutral_iff answer .conjunction children childSteady state
  constructor
  · exact fun satisfied child member state => (atState state).mp (satisfied state) child member
  · exact fun satisfied state =>
      (atState state).mpr fun child member => satisfied child member state

/-- In all of its forms, what a conjunction is narrowed to is satisfied exactly when the clauses
that failed are. -/
theorem narrowed_satisfied_iff (label root : Label) (children : List (Rule Label Criterion))
    (childSteady : ∀ child ∈ children, (child.judge answer).IsSteady)
    (test : Rule Label Criterion → Bool) (someFail : children.filter test ≠ [])
    (left : Remainder Label Criterion)
    (narrowed : narrow (.compound label .conjunction children) children (children.filter test) =
      some left) :
    (left.toRule root).IsSatisfiedUnder answer ↔
      ∀ clause ∈ children.filter test, clause.IsSatisfiedUnder answer := by
  have failingSteady : ∀ clause ∈ children.filter test, (clause.judge answer).IsSteady :=
    fun clause member => childSteady clause (List.mem_filter.mp member).1
  rcases narrow_cases (.compound label .conjunction children) children test someFail with
    ⟨only, alone, found⟩ | ⟨whole, found⟩ | found
  · rw [found, Option.some.injEq] at narrowed
    subst narrowed
    simp [alone, Remainder.toRule]
  · rw [found, Option.some.injEq] at narrowed
    subst narrowed
    rw [whole] at someFail ⊢
    exact conjunction_satisfied_iff answer label children someFail childSteady
  · rw [found, Option.some.injEq] at narrowed
    subst narrowed
    exact conjunction_satisfied_iff answer root _ someFail failingSteady

theorem remainder_narrowed (label : Label) (children : List (Rule Label Criterion))
    (answered : IsAnsweredUnder answer (.compound label .conjunction children))
    (filled : isFilled (.compound label .conjunction children) = true) (state : State) :
    (remainder answer (.compound label .conjunction children)).outcome state =
      .ok (narrow (.compound label .conjunction children) children
        (children.filter (isUnsatisfied answer state))) := by
  have childFilled := (isFilled_compound_iff label .conjunction children).mp filled
  rw [remainder_conjunction_outcome answer label children childFilled.1,
    unsatisfied_of_answered answer children
      (conjuncts_steady answer _ (steady_of_answered answer _ answered)) state]
  · rfl
  · exact fun child member => judge_answered answer child
      (isAnsweredUnder_part answer _ child answered member) (childFilled.2 child member) state

end

end Rule

namespace Graph

section

variable {Subject Criterion State : Type}

/-- A subject for which every leaf has a verdict is rejected by a conjunction.  Then another one is
accepted if and only if it satisfies what was left, and every clause that the first one satisfied.
So the conjunction implies what is left of it, and a subject that keeps what was satisfied is
accepted exactly by satisfying that. -/
theorem remainder_explains_rejection (graph : Graph Criterion) (id : NodeId)
    (children : List (Rule NodeId Criterion))
    (unfolded : graph.rule? id = some (.compound id .conjunction children))
    (filled : Rule.isFilled (.compound id .conjunction children) = true)
    (answer : Subject → NodeId → Criterion → Trial State Bool) (subject : Subject)
    (answered : Rule.IsAnsweredUnder (answer subject) (.compound id .conjunction children))
    (state : State)
    (rejected : (Rule.judge (answer subject) (.compound id .conjunction children)).outcome state =
      .ok false) :
    ∃ left explanation,
      (Rule.remainder (answer subject) (.compound id .conjunction children)).outcome state =
        .ok (some left) ∧
      (graph.place left).2.rule? (graph.place left).1 = some explanation ∧
      ∀ other, Rule.IsAnsweredUnder (answer other) (.compound id .conjunction children) →
        (Rule.IsSatisfiedUnder (answer other) (.compound id .conjunction children) ↔
          explanation.IsSatisfiedUnder (answer other) ∧
          ∀ child ∈ children, child.IsSatisfiedUnder (answer subject) →
            child.IsSatisfiedUnder (answer other)) ∧
        (Rule.IsSatisfiedUnder (answer other) (.compound id .conjunction children) →
          explanation.IsSatisfiedUnder (answer other)) ∧
        ((∀ child ∈ children, child.IsSatisfiedUnder (answer subject) →
            child.IsSatisfiedUnder (answer other)) →
          (Rule.IsSatisfiedUnder (answer other) (.compound id .conjunction children) ↔
            explanation.IsSatisfiedUnder (answer other))) := by
  obtain ⟨-, held⟩ := (rule?_eq_some_iff graph id _).mp unfolded
  have nonempty := ((Rule.isFilled_compound_iff id .conjunction children).mp filled).1
  have steady := Rule.steady_of_answered (answer subject) _ answered
  have childSteady := Rule.conjuncts_steady (answer subject) _ steady
  have decided := Rule.clauses_decided (answer subject) id children answered filled state
  have someFail := Rule.some_clause_fails (answer subject) id children steady decided state rejected
  obtain ⟨left, narrowed, fromRule, -⟩ :=
    Rule.narrowed_unsatisfied (answer subject) id children state childSteady someFail rejected
  obtain ⟨explanation, placed, root, rfl⟩ := holds_of_place graph left fun source member => by
    rcases fromRule source member with rfl | isChild
    · exact held
    · exact holds_of_part graph _ source held isChild
  refine ⟨left, left.toRule root, ?_, placed, fun other otherAnswered => ?_⟩
  · rw [Rule.remainder_narrowed (answer subject) id children answered filled state, narrowed]
  have otherSteady := Rule.conjuncts_steady (answer other) _
    (Rule.steady_of_answered (answer other) _ otherAnswered)
  have wholeIff := Rule.conjunction_satisfied_iff (answer other) id children nonempty otherSteady
  have leftIff := Rule.narrowed_satisfied_iff (answer other) id root children otherSteady _
    someFail left narrowed
  have exactly : Rule.IsSatisfiedUnder (answer other) (.compound id .conjunction children) ↔
      (left.toRule root).IsSatisfiedUnder (answer other) ∧
      ∀ child ∈ children, child.IsSatisfiedUnder (answer subject) →
        child.IsSatisfiedUnder (answer other) := by
    rw [wholeIff, leftIff]
    constructor
    · intro satisfied
      exact ⟨fun clause member => satisfied clause (List.mem_filter.mp member).1,
        fun child member _ => satisfied child member⟩
    · rintro ⟨madeGood, kept⟩ child member
      by_cases fails : child.isUnsatisfied (answer subject) state = true
      · exact madeGood child (List.mem_filter.mpr ⟨member, fails⟩)
      · exact kept child member ((Rule.satisfied_iff_of_decided (answer subject) child
          (decided child member) state).mp fails)
  refine ⟨exactly, fun satisfied => (exactly.mp satisfied).1, fun kept => ?_⟩
  exact ⟨fun satisfied => (exactly.mp satisfied).1, fun madeGood => exactly.mpr ⟨madeGood, kept⟩⟩

end

def nestedFlags : Graph Criterion :=
  ⟨#[⟨.leaf (.flagged "a"), false⟩, ⟨.leaf (.flagged "b"), false⟩, ⟨.leaf (.flagged "c"), false⟩,
    ⟨.compound .conjunction [1, 2], false⟩, ⟨.compound .conjunction [0, 3, 2], false⟩]⟩

def nestedClauses : List (Rule NodeId Criterion) :=
  [.leaf 0 (.flagged "a"),
    .compound 3 .conjunction [.leaf 1 (.flagged "b"), .leaf 2 (.flagged "c")],
    .leaf 2 (.flagged "c")]

theorem nestedClauses_answered (subject : Subject) :
    Rule.IsAnsweredUnder (Criterion.answer subject) (.compound 4 .conjunction nestedClauses) :=
  Rule.isAnsweredUnder_of_flags _ subject rfl

/-- With the first flag only, the nested conjunction and its second flag are left.  To set both of
its flags satisfies what is left, but not the whole unless the first flag is kept. -/
theorem kept_flag_and_remainder_satisfy_whole :
    ∃ left explanation,
      (Rule.remainder (Criterion.answer (.plain [("a", .boolean true)]))
        (.compound 4 .conjunction nestedClauses)).outcome [] = .ok (some left) ∧
      (nestedFlags.place left).2.rule? (nestedFlags.place left).1 = some explanation ∧
      explanation.IsSatisfiedUnder
        (Criterion.answer (.plain [("b", .boolean true), ("c", .boolean true)])) ∧
      ¬Rule.IsSatisfiedUnder
        (Criterion.answer (.plain [("b", .boolean true), ("c", .boolean true)]))
        (.compound 4 .conjunction nestedClauses) ∧
      Rule.IsSatisfiedUnder
        (Criterion.answer
          (.plain [("a", .boolean true), ("b", .boolean true), ("c", .boolean true)]))
        (.compound 4 .conjunction nestedClauses) := by
  obtain ⟨left, explanation, remains, placed, explains⟩ :=
    remainder_explains_rejection nestedFlags 4 nestedClauses rfl rfl Criterion.answer
      (.plain [("a", .boolean true)]) (nestedClauses_answered _) [] rfl
  refine ⟨left, explanation, remains, placed, ?_⟩
  cases remains
  cases placed
  refine ⟨fun _ => rfl, fun satisfied => ?_, ?_⟩
  · have flagKept := ((explains _ (nestedClauses_answered _)).1.mp satisfied).2
      (.leaf 0 (.flagged "a")) (by simp [nestedClauses]) (fun _ => rfl) []
    cases flagKept
  · refine (explains _ (nestedClauses_answered _)).1.mpr ⟨fun _ => rfl, fun child member _ => ?_⟩
    have isClause : child = .leaf 0 (.flagged "a") ∨
        child = .compound 3 .conjunction [.leaf 1 (.flagged "b"), .leaf 2 (.flagged "c")] ∨
        child = .leaf 2 (.flagged "c") := by
      simpa [nestedClauses] using member
    rcases isClause with rfl | rfl | rfl <;> exact fun _ => rfl

end Graph

end Eligibility
