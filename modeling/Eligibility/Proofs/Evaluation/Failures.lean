import Eligibility.Proofs.Evaluation.Verdict
import Eligibility.Proofs.Rule.Answered

/-!
# Reported failures

The clauses of the remainder are reported as failures.  The clauses of a new conjunction are
unsatisfied, but a remainder that was there before is taken apart as well: the only unsatisfied
clause of a conjunction may be a conjunction whose own clauses are in part satisfied.
-/

set_option autoImplicit false

namespace Eligibility

namespace Rule

section Reports
variable {Label Criterion State : Type}

/-- Only one clause of the conjunction is unsatisfied, and it is the conjunction of `nested`. -/
def FailsOnlyInside (answer : Label → Criterion → Trial State Bool)
    (rule : Rule Label Criterion) (nested : List (Rule Label Criterion)) : Prop :=
  ∃ front label back,
    rule.conjuncts = front ++ .compound label .conjunction nested :: back ∧
    (∀ clause ∈ front ++ back, clause.IsSatisfiedUnder answer) ∧
    IsUnsatisfiedUnder answer (.compound label .conjunction nested)

theorem failures_rules (leafText : Criterion → String)
    (left : Option (Remainder Label Criterion)) :
    (failures leafText left).map Failure.rule = left.elim [] Remainder.clauses := by
  cases left with
  | none => rfl
  | some remainder => simp [failures, Function.comp_def]

theorem evaluated_of_answered (leafText : Criterion → String)
    (answer : Label → Criterion → Trial State Bool) (policy : Policy)
    (rule : Rule Label Criterion) (answered : rule.IsAnsweredUnder answer)
    (filled : rule.isFilled = true) (state : State) :
    ∃ verdict left, (rule.judge answer).outcome state = .ok verdict ∧
      (rule.remainder answer).outcome state = .ok left ∧
      rule.evaluated leafText answer policy state =
        .ok { satisfied := verdict
              remainder := if verdict then none else left
              failures := failures leafText (if verdict then none else left)
              fault := none } := by
  have steady := steady_of_answered answer rule answered
  obtain ⟨verdict, judged⟩ := judge_answered answer rule answered filled state
  have clausesAnswered : ∀ clause ∈ rule.conjuncts,
      ∃ found, (clause.judge answer).outcome state = .ok found := by
    rcases conjunction_or_whole State rule with ⟨label, children, rfl⟩ | ⟨none, -, -⟩
    · intro clause member
      exact judge_answered answer clause
        (isAnsweredUnder_part answer _ clause answered member)
        (((isFilled_compound_iff label .conjunction children).mp filled).2 clause member) state
    · simp [none]
  obtain ⟨left, remains⟩ :=
    remainder_of_answered answer rule steady state verdict judged clausesAnswered
  refine ⟨verdict, left, judged, remains, ?_⟩
  apply evaluated_of_examined
  rw [examine_outcome answer rule steady, judged, remains]
  cases verdict with
  | true => rfl
  | false => rfl

/-! ## Narrowed conjunctions -/

/-- Of several unsatisfied clauses all are reported, whether they are all the clauses or not. -/
theorem narrow_several_clauses (label : Label) (children : List (Rule Label Criterion))
    (test : Rule Label Criterion → Bool) (first second : Rule Label Criterion)
    (others : List (Rule Label Criterion))
    (several : children.filter test = first :: second :: others) :
    (narrow (.compound label .conjunction children) children (children.filter test)).elim []
      Remainder.clauses = children.filter test := by
  rw [several]
  change Option.elim
    (if (first :: second :: others).length = children.length then _ else _) [] _ = _
  by_cases all : (first :: second :: others).length = children.length
  · have whole : children.filter test = children :=
      List.filter_sublist.eq_of_length (by rw [several, all])
    rw [if_pos all, ← several, whole]
    rfl
  · rw [if_neg all]
    rfl

/-! ## The only clause that fails -/

theorem only_unsatisfied_iff (answer : Label → Criterion → Trial State Bool)
    (children : List (Rule Label Criterion))
    (decided : ∀ child ∈ children, child.IsDecidedUnder answer) (state : State)
    (only : Rule Label Criterion) :
    children.filter (isUnsatisfied answer state) = [only] ↔
      ∃ front back, children = front ++ only :: back ∧
        (∀ clause ∈ front ++ back, clause.IsSatisfiedUnder answer) ∧
        only.IsUnsatisfiedUnder answer := by
  constructor
  · intro filtered
    obtain ⟨front, back, rfl, frontFails, onlyFails, backNil⟩ :=
      List.filter_eq_cons_iff.mp filtered
    have backFails := List.filter_eq_nil_iff.mp backNil
    refine ⟨front, back, rfl, ?_, ?_⟩
    · intro clause member
      rcases List.mem_append.mp member with inFront | inBack
      · exact (satisfied_iff_of_decided answer clause (decided clause (by simp [inFront]))
          state).mp (frontFails clause inFront)
      · exact (satisfied_iff_of_decided answer clause (decided clause (by simp [inBack]))
          state).mp (backFails clause inBack)
    · exact (isUnsatisfied_iff_of_decided answer only (decided only (by simp)) state).mp onlyFails
  · rintro ⟨front, back, rfl, satisfied, unsatisfied⟩
    have holds : ∀ clause ∈ front ++ back, ¬clause.isUnsatisfied answer state = true :=
      fun clause member => (satisfied_iff_of_decided answer clause
        (Or.inl (satisfied clause member)) state).mpr (satisfied clause member)
    have onlyFails := (isUnsatisfied_iff answer state only).mpr (unsatisfied state)
    rw [List.filter_append, List.filter_cons_of_pos onlyFails,
      List.filter_eq_nil_iff.mpr fun clause member => holds clause (by simp [member]),
      List.filter_eq_nil_iff.mpr fun clause member => holds clause (by simp [member])]
    rfl

/-! ## The clauses that remain -/

theorem failsOnlyInside_iff (answer : Label → Criterion → Trial State Bool) (label : Label)
    (children nested : List (Rule Label Criterion))
    (decided : ∀ child ∈ children, child.IsDecidedUnder answer) (state : State) :
    FailsOnlyInside answer (.compound label .conjunction children) nested ↔
      ∃ inner, children.filter (isUnsatisfied answer state) =
        [.compound inner .conjunction nested] := by
  constructor
  · rintro ⟨front, inner, back, split⟩
    exact ⟨inner, (only_unsatisfied_iff answer children decided state _).mpr ⟨front, back, split⟩⟩
  · rintro ⟨inner, filtered⟩
    obtain ⟨front, back, split⟩ :=
      (only_unsatisfied_iff answer children decided state _).mp filtered
    exact ⟨front, inner, back, split⟩

/-- Either a conjunction fails only inside one clause and the clauses of that remain, or everything
that remains of it is unsatisfied. -/
theorem narrowed_clauses_cases (answer : Label → Criterion → Trial State Bool) (label : Label)
    (children : List (Rule Label Criterion))
    (decided : ∀ child ∈ children, child.IsDecidedUnder answer) (state : State)
    (someFail : children.filter (isUnsatisfied answer state) ≠ [])
    (remaining : List (Rule Label Criterion))
    (narrowed : (narrow (.compound label .conjunction children) children
      (children.filter (isUnsatisfied answer state))).elim [] Remainder.clauses = remaining) :
    FailsOnlyInside answer (.compound label .conjunction children) remaining ∨
      (∀ nested, ¬FailsOnlyInside answer (.compound label .conjunction children) nested) ∧
        ∀ clause ∈ remaining, clause.IsUnsatisfiedUnder answer := by
  have allFail : ∀ clause ∈ children.filter (isUnsatisfied answer state),
      clause.IsUnsatisfiedUnder answer := by
    intro clause member
    obtain ⟨inChildren, fails⟩ := List.mem_filter.mp member
    exact (isUnsatisfied_iff_of_decided answer clause (decided clause inChildren) state).mp fails
  have inside := fun nested => failsOnlyInside_iff answer label children nested decided state
  rcases failing : children.filter (isUnsatisfied answer state) with
    _ | ⟨first, _ | ⟨second, others⟩⟩
  · exact absurd failing someFail
  · rw [failing] at narrowed allFail
    rcases conjunction_or_whole State first with ⟨inner, nested, rfl⟩ | ⟨none, -, alone⟩
    · left
      cases narrowed
      exact (inside nested).mpr ⟨inner, failing⟩
    · right
      constructor
      · intro nested failsInside
        obtain ⟨inner, filtered⟩ := (inside nested).mp failsInside
        rw [failing, List.singleton_inj] at filtered
        rw [filtered] at none alone
        change nested = _ at none alone
        rw [none] at alone
        cases alone
      · change (Remainder.existing first).clauses = remaining at narrowed
        rw [← narrowed, alone]
        exact allFail
  · right
    constructor
    · intro nested failsInside
      obtain ⟨inner, filtered⟩ := (inside nested).mp failsInside
      rw [failing] at filtered
      cases filtered
    · rw [narrow_several_clauses label children _ first second others failing] at narrowed
      rw [← narrowed]
      exact allFail

theorem failsOnlyInside_unique (answer : Label → Criterion → Trial State Bool)
    (rule : Rule Label Criterion) (answered : rule.IsAnsweredUnder answer)
    (filled : rule.isFilled = true) (state : State) (first second : List (Rule Label Criterion))
    (insideFirst : rule.FailsOnlyInside answer first)
    (insideSecond : rule.FailsOnlyInside answer second) : first = second := by
  rcases conjunction_or_whole State rule with ⟨label, children, rfl⟩ | ⟨none, -, -⟩
  · have decided := clauses_decided answer label children answered filled state
    obtain ⟨inner, filtered⟩ :=
      (failsOnlyInside_iff answer label children first decided state).mp insideFirst
    obtain ⟨other, otherFiltered⟩ :=
      (failsOnlyInside_iff answer label children second decided state).mp insideSecond
    rw [filtered] at otherFiltered
    cases otherFiltered
    rfl
  · obtain ⟨front, inner, back, split, -⟩ := insideFirst
    simp [none] at split

theorem remaining_clauses_cases (answer : Label → Criterion → Trial State Bool)
    (rule : Rule Label Criterion) (answered : rule.IsAnsweredUnder answer)
    (filled : rule.isFilled = true) (state : State)
    (unsatisfied : (rule.judge answer).outcome state = .ok false)
    (left : Option (Remainder Label Criterion))
    (remains : (rule.remainder answer).outcome state = .ok left) :
    rule.FailsOnlyInside answer (left.elim [] Remainder.clauses) ∨
      (∀ nested, ¬rule.FailsOnlyInside answer nested) ∧
        ∀ clause ∈ left.elim [] Remainder.clauses, clause.IsUnsatisfiedUnder answer := by
  have steady := steady_of_answered answer rule answered
  rcases conjunction_or_whole State rule with
    ⟨label, children, rfl⟩ | ⟨none, whole, alone⟩
  · have decided := clauses_decided answer label children answered filled state
    have nonempty := ((isFilled_compound_iff label .conjunction children).mp filled).1
    have clausesAnswered : ∀ child ∈ children,
        ∃ found, (child.judge answer).outcome state = .ok found := by
      intro child member
      rcases decided child member with satisfied | fails
      · exact ⟨true, satisfied state⟩
      · exact ⟨false, fails state⟩
    rw [remainder_conjunction_outcome answer label children nonempty,
      unsatisfied_of_answered answer children (conjuncts_steady answer _ steady) state
        clausesAnswered] at remains
    cases remains
    exact narrowed_clauses_cases answer label children decided state
      (some_clause_fails answer label children steady decided state unsatisfied) _ rfl
  · right
    constructor
    · rintro nested ⟨front, inner, back, split, -⟩
      simp [none] at split
    · rw [whole answer, wholeRemainder_outcome, unsatisfied] at remains
      cases remains
      intro clause member
      change clause ∈ (Remainder.existing rule).clauses at member
      rw [alone, List.mem_singleton] at member
      subst member
      intro later
      rw [judge_steady answer clause steady later state, unsatisfied]

/-- An evaluation of an unsatisfied rule reports unsatisfied clauses only, if and only if the rule
does not fail only inside a conjunction that has a satisfied clause: of that conjunction all
clauses are reported. -/
theorem failures_unsatisfied_iff (leafText : Criterion → String)
    (answer : Label → Criterion → Trial State Bool) (policy : Policy)
    (rule : Rule Label Criterion) (answered : rule.IsAnsweredUnder answer)
    (filled : rule.isFilled = true) (state : State) :
    ∃ report, rule.evaluated leafText answer policy state = .ok report ∧
      report.fault = none ∧ (rule.judge answer).outcome state = .ok report.satisfied ∧
      (report.satisfied = false →
        ((∀ failure ∈ report.failures, failure.rule.IsUnsatisfiedUnder answer) ↔
          ∀ nested, rule.FailsOnlyInside answer nested →
            ∀ clause ∈ nested, clause.IsUnsatisfiedUnder answer) ∧
        ∀ nested, rule.FailsOnlyInside answer nested →
          report.failures.map Failure.rule = nested) := by
  obtain ⟨verdict, left, judged, remains, evaluated⟩ :=
    evaluated_of_answered leafText answer policy rule answered filled state
  refine ⟨_, evaluated, rfl, judged, ?_⟩
  intro unsatisfied
  change verdict = false at unsatisfied
  subst unsatisfied
  have reported := failures_rules leafText left
  have alternatives := remaining_clauses_cases answer rule answered filled state judged left remains
  have reportedInside : ∀ nested, rule.FailsOnlyInside answer nested →
      left.elim [] Remainder.clauses = nested := by
    intro nested inside
    rcases alternatives with insideLeft | ⟨nowhere, -⟩
    · exact failsOnlyInside_unique answer rule answered filled state _ nested insideLeft inside
    · exact absurd inside (nowhere nested)
  simp only [Bool.false_eq_true, if_false]
  refine ⟨?_, fun nested inside => by rw [reported, reportedInside nested inside]⟩
  have inList : (∀ failure ∈ failures leafText left, failure.rule.IsUnsatisfiedUnder answer) ↔
      ∀ clause ∈ left.elim [] Remainder.clauses, clause.IsUnsatisfiedUnder answer := by
    rw [← reported, List.forall_mem_map]
  rw [inList]
  constructor
  · intro allFail nested inside
    rw [← reportedInside nested inside]
    exact allFail
  · intro insideFails
    rcases alternatives with insideLeft | ⟨-, allFail⟩
    · exact insideFails _ insideLeft
    · exact allFail

end Reports

def flagsInsideFlags : Rule NodeId Criterion :=
  .compound 4 .conjunction
    [.leaf 0 (.flagged "a"),
      .compound 3 .conjunction [.leaf 1 (.flagged "b"), .leaf 2 (.flagged "c")]]

def allButLast : Subject :=
  .plain [("a", .boolean true), ("b", .boolean true)]

/-- The second flag is reported as a failure and is set. -/
theorem set_flag_reported_as_failure :
    flagsInsideFlags.IsAnsweredUnder (Criterion.answer allButLast) ∧
      flagsInsideFlags.isFilled = true ∧
      IsSatisfiedUnder (Criterion.answer allButLast) (.leaf 1 (.flagged "b")) ∧
      ∃ report, flagsInsideFlags.evaluated Criterion.text (Criterion.answer allButLast)
          ⟨true, false, .console⟩ [] = .ok report ∧
        report.fault = none ∧ report.satisfied = false ∧
        report.failures.map Failure.rule =
          [.leaf 1 (.flagged "b"), .leaf 2 (.flagged "c")] ∧
        ¬∀ failure ∈ report.failures,
          failure.rule.IsUnsatisfiedUnder (Criterion.answer allButLast) := by
  have answered : flagsInsideFlags.IsAnsweredUnder (Criterion.answer allButLast) := by
    intro leaf member
    have isFlag : leaf = (0, .flagged "a") ∨ leaf = (1, .flagged "b") ∨
        leaf = (2, .flagged "c") := by
      simpa [flagsInsideFlags] using member
    rcases isFlag with rfl | rfl | rfl
    · exact ⟨true, fun _ => rfl⟩
    · exact ⟨true, fun _ => rfl⟩
    · exact ⟨false, fun _ => rfl⟩
  have secondSet : IsSatisfiedUnder (Criterion.answer allButLast) (.leaf 1 (.flagged "b")) :=
    fun _ => rfl
  have inside : flagsInsideFlags.FailsOnlyInside (Criterion.answer allButLast)
      [.leaf 1 (.flagged "b"), .leaf 2 (.flagged "c")] := by
    refine ⟨[.leaf 0 (.flagged "a")], 3, [], rfl, ?_, fun _ => rfl⟩
    intro clause member
    rw [List.append_nil, List.mem_singleton] at member
    subst member
    exact fun _ => rfl
  obtain ⟨report, evaluated, faultless, judged, reported⟩ :=
    failures_unsatisfied_iff Criterion.text (Criterion.answer allButLast)
      ⟨true, false, .console⟩ flagsInsideFlags answered rfl []
  have unsatisfied : report.satisfied = false := (Except.ok.inj judged).symm
  obtain ⟨allFail, listed⟩ := reported unsatisfied
  refine ⟨answered, rfl, secondSet, report, evaluated, faultless, unsatisfied,
    listed _ inside, ?_⟩
  intro fails
  have secondUnset := allFail.mp fails _ inside (.leaf 1 (.flagged "b")) (by simp) []
  cases secondUnset

end Rule

end Eligibility
