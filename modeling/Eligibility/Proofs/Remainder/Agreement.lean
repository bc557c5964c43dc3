import Eligibility.Graph.Answer
import Eligibility.Proofs.Graph.Compose
import Eligibility.Proofs.Rule.Remainder

/-!
# Verdicts and remainders agree

The verdict stops at the first clause that settles it, the remainder asks every clause.  The two
come apart in one way only: the verdict of a conjunction is settled by a clause that is not
satisfied, and a later clause fails.
-/

set_option autoImplicit false

namespace Eligibility

namespace Rule

variable {Label Criterion State : Type}

/-! ## What is left as a rule -/

/-- What is left as a rule, with a label for the root if it is new. -/
def Remainder.toRule (label : Label) : Remainder Label Criterion → Rule Label Criterion
  | .existing rule => rule
  | .narrowed clauses => .compound label .conjunction clauses

def Remainder.sources : Remainder Label Criterion → List (Rule Label Criterion)
  | .existing rule => [rule]
  | .narrowed clauses => clauses

/-- A narrowed conjunction is new: it stands in for the whole, for its only unsatisfied clause or
for those that are not satisfied. -/
theorem narrow_cases (rule : Rule Label Criterion) (children : List (Rule Label Criterion))
    (test : Rule Label Criterion → Bool) (someFail : children.filter test ≠ []) :
    (∃ only, children.filter test = [only] ∧
        rule.narrow children (children.filter test) = some (.existing only)) ∨
      (children.filter test = children ∧
        rule.narrow children (children.filter test) = some (.existing rule)) ∨
      rule.narrow children (children.filter test) = some (.narrowed (children.filter test)) := by
  rcases failing : children.filter test with _ | ⟨first, _ | ⟨second, others⟩⟩
  · exact absurd failing someFail
  · exact .inl ⟨first, rfl, rfl⟩
  · have narrowed : rule.narrow children (first :: second :: others) =
        if (first :: second :: others).length = children.length then some (.existing rule)
        else some (.narrowed (first :: second :: others)) := rfl
    rw [narrowed]
    by_cases all : (first :: second :: others).length = children.length
    · have whole := List.filter_sublist.eq_of_length (by rw [failing, all] :
        (children.filter test).length = children.length)
      rw [if_pos all, ← failing]
      exact .inr (.inl ⟨whole, rfl⟩)
    · rw [if_neg all]
      exact .inr (.inr rfl)

/-! ## The ways in which verdict and remainder come out together -/

/-- The outcomes that the verdict and the remainder of a rule can have together. -/
inductive Accord (answer : Label → Criterion → Trial State Bool) (state : State)
    (rule : Rule Label Criterion) :
    Except Fault Bool → Except Fault (Option (Remainder Label Criterion)) → Prop
  | satisfied : Accord answer state rule (.ok true) (.ok none)
  | failed (fault : Fault) : Accord answer state rule (.error fault) (.error fault)
  | explained (left : Remainder Label Criterion)
      (fromRule : ∀ source ∈ left.sources, source = rule ∨ source ∈ rule.parts)
      (unsatisfied : ∀ label, ((left.toRule label).judge answer).outcome state = .ok false) :
      Accord answer state rule (.ok false) (.ok (some left))
  | settledBefore (label : Label) (front middle back : List (Rule Label Criterion))
      (settling failing : Rule Label Criterion) (fault : Fault)
      (split : rule = .compound label .conjunction (front ++ settling :: middle ++ failing :: back))
      (satisfiedFront : ∀ clause ∈ front, (clause.judge answer).outcome state = .ok true)
      (settles : (settling.judge answer).outcome state = .ok false)
      (fails : (failing.judge answer).outcome state = .error fault) :
      Accord answer state rule (.ok false) (.error fault)

theorem neutral_or_settling (answer : Label → Criterion → Trial State Bool)
    (connective : Connective) (children : List (Rule Label Criterion)) (state : State) :
    (∀ child ∈ children, (child.judge answer).outcome state = .ok connective.neutral) ∨
      ∃ front clause back, children = front ++ clause :: back ∧
        (∀ child ∈ front, (child.judge answer).outcome state = .ok connective.neutral) ∧
        (clause.judge answer).outcome state ≠ .ok connective.neutral := by
  induction children with
  | nil => exact .inl (by simp)
  | cons child rest ih =>
      by_cases isNeutral : (child.judge answer).outcome state = .ok connective.neutral
      · rcases ih with allNeutral | ⟨front, clause, back, rfl, neutral, settles⟩
        · exact .inl (List.forall_mem_cons.mpr ⟨isNeutral, allNeutral⟩)
        · exact .inr ⟨child :: front, clause, back, rfl,
            List.forall_mem_cons.mpr ⟨isNeutral, neutral⟩, settles⟩
      · exact .inr ⟨[], child, rest, rfl, by simp, isNeutral⟩

section Conjunctions

variable (answer : Label → Criterion → Trial State Bool) (label : Label)
  (children : List (Rule Label Criterion)) (state : State)
  (childSteady : ∀ child ∈ children, (child.judge answer).IsSteady)

include childSteady

theorem narrowed_unsatisfied (someFail : children.filter (isUnsatisfied answer state) ≠ [])
    (unsatisfied : (judge answer (.compound label .conjunction children)).outcome state =
      .ok false) :
    ∃ left, narrow (.compound label .conjunction children) children
        (children.filter (isUnsatisfied answer state)) = some left ∧
      (∀ source ∈ left.sources,
        source = .compound label .conjunction children ∨ source ∈ children) ∧
      ∀ root, ((left.toRule root).judge answer).outcome state = .ok false := by
  rcases narrow_cases (.compound label .conjunction children) children
    (isUnsatisfied answer state) someFail with ⟨only, alone, narrowed⟩ | ⟨-, narrowed⟩ | narrowed
  · have member : only ∈ children.filter (isUnsatisfied answer state) := by simp [alone]
    obtain ⟨inside, fails⟩ := List.mem_filter.mp member
    refine ⟨_, narrowed, ?_, fun root => (isUnsatisfied_iff answer state only).mp fails⟩
    simp [Remainder.sources, inside]
  · exact ⟨_, narrowed, by simp [Remainder.sources], fun root => unsatisfied⟩
  · refine ⟨_, narrowed, ?_, fun root => ?_⟩
    · intro source member
      exact .inr (List.mem_filter.mp member).1
    · have steady : ∀ child ∈ children.filter (isUnsatisfied answer state),
          (child.judge answer).IsSteady :=
        fun child member => childSteady child (List.mem_filter.mp member).1
      -- the first of the clauses that are left is not satisfied and settles the verdict
      change (judge answer (.compound root .conjunction _)).outcome state = _
      rw [judge_conjunction_outcome answer root _ someFail]
      cases failing : children.filter (isUnsatisfied answer state) with
      | nil => exact absurd failing someFail
      | cons first others =>
          have member : first ∈ children.filter (isUnsatisfied answer state) := by simp [failing]
          have fails := (isUnsatisfied_iff answer state first).mp (List.mem_filter.mp member).2
          rw [failing] at steady
          rw [← List.nil_append (first :: others), judgeAll_of_settling answer .conjunction []
            others first steady state (by simp) (by simp [fails, Connective.neutral]), fails]

theorem accord_of_satisfied (filled : children ≠ [])
    (allSatisfied : ∀ child ∈ children, (child.judge answer).outcome state = .ok true) :
    Accord answer state (.compound label .conjunction children)
      ((judge answer (.compound label .conjunction children)).outcome state)
      ((remainder answer (.compound label .conjunction children)).outcome state) := by
  have noneFails : children.filter (isUnsatisfied answer state) = [] := by
    apply List.filter_eq_nil_iff.mpr
    intro child member
    simp [isUnsatisfied_iff, allSatisfied child member]
  rw [judge_conjunction_outcome answer label children filled,
    remainder_conjunction_outcome answer label children filled,
    (judgeAll_neutral_iff answer .conjunction children childSteady state).mpr allSatisfied,
    unsatisfied_of_answered answer children childSteady state
      fun child member => ⟨true, allSatisfied child member⟩, noneFails]
  exact .satisfied

omit childSteady in
theorem accord_of_settled (front back : List (Rule Label Criterion))
    (settling : Rule Label Criterion)
    (childSteady : ∀ child ∈ front ++ settling :: back, (child.judge answer).IsSteady)
    (satisfied : ∀ child ∈ front, (child.judge answer).outcome state = .ok true)
    (settles : (settling.judge answer).outcome state = .ok false) :
    Accord answer state (.compound label .conjunction (front ++ settling :: back))
      ((judge answer (.compound label .conjunction (front ++ settling :: back))).outcome state)
      ((remainder answer (.compound label .conjunction (front ++ settling :: back))).outcome
        state) := by
  have judged : (judge answer (.compound label .conjunction (front ++ settling :: back))).outcome
      state = .ok false := by
    rw [judge_conjunction_outcome answer label _ (by simp), judgeAll_of_settling answer
      .conjunction front back settling childSteady state satisfied
      (by simp [settles, Connective.neutral]), settles]
  rw [judged, remainder_conjunction_outcome answer label _ (by simp)]
  have answeredSoFar : ∀ child ∈ front ++ [settling],
      ∃ verdict, (child.judge answer).outcome state = .ok verdict := by
    intro child member
    rcases List.mem_append.mp member with inFront | isSettling
    · exact ⟨true, satisfied child inFront⟩
    · exact ⟨false, by rw [List.mem_singleton.mp isSettling, settles]⟩
  -- the clauses behind the settling one are asked for the remainder only
  rcases answered_or_first_fault answer back state with
    backAnswered | ⟨middle, failing, rest, fault, rfl, middleAnswered, fails⟩
  · have someFail : (front ++ settling :: back).filter (isUnsatisfied answer state) ≠ [] := by
      apply List.ne_nil_of_mem (a := settling)
      simp [isUnsatisfied_iff, settles]
    obtain ⟨left, narrowed, fromRule, unsatisfied⟩ :=
      narrowed_unsatisfied answer label _ state childSteady someFail judged
    rw [unsatisfied_of_answered answer _ childSteady state, Except.map, narrowed]
    · exact .explained left fromRule unsatisfied
    · rw [List.append_cons]
      exact List.forall_mem_append.mpr ⟨answeredSoFar, backAnswered⟩
  · have regrouped : front ++ settling :: (middle ++ failing :: rest) =
        (front ++ [settling] ++ middle) ++ failing :: rest := by simp
    rw [regrouped] at childSteady ⊢
    rw [unsatisfied_of_fault answer _ rest failing childSteady state fault
      (List.forall_mem_append.mpr ⟨answeredSoFar, middleAnswered⟩) fails]
    exact .settledBefore label front middle rest settling failing fault (by simp) satisfied
      settles fails

theorem conjunction_accord (filled : children ≠ []) :
    Accord answer state (.compound label .conjunction children)
      ((judge answer (.compound label .conjunction children)).outcome state)
      ((remainder answer (.compound label .conjunction children)).outcome state) := by
  rcases neutral_or_settling answer .conjunction children state with
    allSatisfied | ⟨front, clause, back, rfl, satisfied, settles⟩
  · exact accord_of_satisfied answer label children state childSteady filled allSatisfied
  · cases found : (clause.judge answer).outcome state with
    | error fault =>
        rw [judge_conjunction_outcome answer label _ filled, judgeAll_of_settling answer
            .conjunction front back clause childSteady state satisfied settles,
          remainder_conjunction_outcome answer label _ filled, unsatisfied_of_fault answer front
            back clause childSteady state fault (fun child member => ⟨true, satisfied child member⟩)
            found, found]
        exact .failed fault
    | ok verdict =>
        cases verdict with
        | true => exact absurd found settles
        | false =>
            exact accord_of_settled answer label state front back clause childSteady satisfied
              found

end Conjunctions

theorem accord (answer : Label → Criterion → Trial State Bool) (rule : Rule Label Criterion)
    (steady : rule.IsSteadyUnder answer) (state : State) :
    Accord answer state rule ((rule.judge answer).outcome state)
      ((rule.remainder answer).outcome state) := by
  rcases conjunction_or_whole State rule with ⟨label, children, rfl⟩ | ⟨-, whole, -⟩
  · cases children with
    | nil =>
        rw [judge, remainder, Trial.outcome_throw, Trial.outcome_throw]
        exact .failed _
    | cons child rest =>
        exact conjunction_accord answer label (child :: rest) state
          (conjuncts_steady answer _ steady) (by simp)
  · rw [whole answer, wholeRemainder_outcome]
    cases judged : (rule.judge answer).outcome state with
    | error fault => exact .failed fault
    | ok verdict =>
        cases verdict with
        | true => exact .satisfied
        | false =>
            exact .explained (.existing rule) (by simp [Remainder.sources]) fun label => judged

end Rule

namespace Graph

section

variable {Criterion State : Type}

theorem holds_of_place (graph : Graph Criterion) (left : Rule.Remainder NodeId Criterion)
    (held : ∀ source ∈ left.sources, graph.Holds source) :
    ∃ rule, (graph.place left).2.rule? (graph.place left).1 = some rule ∧
      ∃ label, rule = left.toRule label := by
  cases left with
  | existing rule =>
      have ruleHeld := held rule (List.mem_singleton_self rule)
      exact ⟨rule, (rule?_eq_some_iff graph _ rule).mpr ⟨rfl, ruleHeld⟩, 0, rfl⟩
  | narrowed clauses =>
      obtain ⟨here, elsewhere, fresh⟩ :=
        allocate_changes graph (.compound .conjunction (clauses.map Rule.label))
      refine ⟨.compound graph.nodes.size .conjunction clauses, ?_, graph.nodes.size, rfl⟩
      refine (rule?_eq_some_iff _ _ _).mpr ⟨rfl, .node _ (shape?_of_node? _ _ _ false here) ?_⟩
      intro clause member
      refine (holds_iff_of_changed graph _ _ elsewhere clause fun inside => ?_).mpr
        (held clause member)
      exact Nat.lt_irrefl _ (label_lt_size graph clause (held clause member) _ inside)

/-- A rule is satisfied if and only if nothing is left of it; where it fails, so does the remainder
with the same fault; and where something is left, the rule and the node of what is left are both
not satisfied.  That an unsatisfied rule has no remainder happens only if it is a conjunction with
a failing clause after its first unsatisfied one. -/
theorem verdict_and_remainder_agree (graph : Graph Criterion) (id : NodeId)
    (rule : Rule NodeId Criterion) (unfolded : graph.rule? id = some rule)
    (answer : NodeId → Criterion → Trial State Bool) (steady : rule.IsSteadyUnder answer)
    (earlier later last : State) :
    ((rule.judge answer).outcome earlier = .ok true ↔
      (rule.remainder answer).outcome later = .ok none) ∧
    (∀ fault, (rule.judge answer).outcome earlier = .error fault →
      (rule.remainder answer).outcome later = .error fault) ∧
    (∀ left, (rule.remainder answer).outcome later = .ok (some left) →
      (rule.judge answer).outcome earlier = .ok false ∧
      ∃ explanation, (graph.place left).2.rule? (graph.place left).1 = some explanation ∧
        (explanation.judge answer).outcome last = .ok false) ∧
    ∀ fault, (rule.judge answer).outcome earlier = .ok false →
      (rule.remainder answer).outcome later = .error fault →
      ∃ front unsatisfied middle failing back,
        rule = .compound id .conjunction (front ++ unsatisfied :: middle ++ failing :: back) ∧
        (∀ clause ∈ front, (clause.judge answer).outcome last = .ok true) ∧
        (unsatisfied.judge answer).outcome last = .ok false ∧
        (failing.judge answer).outcome last = .error fault := by
  obtain ⟨isRoot, held⟩ := (rule?_eq_some_iff graph id rule).mp unfolded
  rw [Rule.judge_steady answer rule steady earlier last,
    Rule.remainder_steady answer rule steady later last]
  have agreement := Rule.accord answer rule steady last
  generalize (rule.judge answer).outcome last = verdict at agreement ⊢
  generalize (rule.remainder answer).outcome last = remains at agreement ⊢
  cases agreement with
  | satisfied => simp
  | failed fault => simp
  | explained left fromRule unsatisfied =>
      refine ⟨by simp, by simp, ?_, by simp⟩
      rintro _ ⟨⟩
      obtain ⟨explanation, placed, label, same⟩ := holds_of_place graph left fun source member => by
        rcases fromRule source member with rfl | isPart
        · exact held
        · exact holds_of_part graph rule source held isPart
      exact ⟨rfl, explanation, placed, same ▸ unsatisfied label⟩
  | settledBefore label front middle back settling failing fault split satisfied settles fails =>
      refine ⟨by simp, by simp, by simp, ?_⟩
      rintro _ - ⟨⟩
      rw [split] at isRoot
      change label = id at isRoot
      exact ⟨front, settling, middle, failing, back, isRoot ▸ split, satisfied, settles, fails⟩

end

def twoConjunctions : Graph Criterion :=
  ⟨#[⟨.leaf (.flagged "a"), false⟩, ⟨.leaf (.flagged "b"), false⟩, ⟨.leaf (.flagged "c"), false⟩,
    ⟨.leaf .unfinished, false⟩, ⟨.compound .conjunction [0, 1, 2], false⟩,
    ⟨.compound .conjunction [0, 3], false⟩]⟩

/-- With the first flag set, the other two are left of the three.  With none set, the other
conjunction is not satisfied, and its remainder fails. -/
theorem flags_left_and_fault_behind_flag :
    (∃ explanation,
      (twoConjunctions.place (.narrowed [.leaf 1 (.flagged "b"), .leaf 2 (.flagged "c")])).2.rule?
          6 = some explanation ∧
        (explanation.judge (Criterion.answer (.plain [("a", .boolean true)]))).outcome [] =
          .ok false) ∧
      ∃ front unsatisfied middle failing back,
        (.compound 5 .conjunction [.leaf 0 (.flagged "a"), .leaf 3 .unfinished] :
            Rule NodeId Criterion) =
          .compound 5 .conjunction (front ++ unsatisfied :: middle ++ failing :: back) ∧
        (failing.judge (Criterion.answer (.plain []))).outcome [] =
          .error (.unimplemented "Incomplete" "isSatisfiedBy") := by
  obtain ⟨-, -, explained, -⟩ := verdict_and_remainder_agree twoConjunctions 4 _ rfl
    (Criterion.answer (.plain [("a", .boolean true)])) (by
      intro leaf member
      have isFlag : leaf = (0, .flagged "a") ∨ leaf = (1, .flagged "b") ∨
          leaf = (2, .flagged "c") := by simpa using member
      rcases isFlag with rfl | rfl | rfl <;> exact fun _ _ => rfl) [] [] []
  obtain ⟨-, -, -, settled⟩ := verdict_and_remainder_agree twoConjunctions 5 _ rfl
    (Criterion.answer (.plain [])) (by
      intro leaf member
      have isLeaf : leaf = (0, .flagged "a") ∨ leaf = (3, .unfinished) := by simpa using member
      rcases isLeaf with rfl | rfl <;> exact fun _ _ => rfl) [] [] []
  obtain ⟨-, explanation, placed, unsatisfied⟩ := explained _ rfl
  obtain ⟨front, first, middle, failing, back, split, -, -, fails⟩ := settled _ rfl rfl
  exact ⟨⟨explanation, placed, unsatisfied⟩, front, first, middle, failing, back, split, fails⟩

end Graph

end Eligibility
