import Eligibility.Proofs.Builder.Extension
import Eligibility.Proofs.Session.Appending
import Eligibility.Proofs.Session.Protocol

/-!
# Builders compute left folds

The rule of a builder gives the verdict that comes of the first rule by the extensions, one after
the other.  An extension may change its root in place.  What was passed earlier is below the root by
then, so where it reached the root, the rule would contain itself.
-/

set_option autoImplicit false

namespace Eligibility

namespace Session

open Builder (Extension)

section

variable {Subject Criterion State : Type}

/-- The rule below a node has a verdict on the subject as the session stands. -/
def Gives (answer : Subject → NodeId → Criterion → Trial State Bool) (subject : Subject)
    (session : Session Criterion State) (node : NodeId) (verdict : Bool) : Prop :=
  ∃ rule, session.graph.rule? node = some rule ∧
    (rule.judge (answer subject)).outcome session.state = .ok verdict

/-- Actions that extend the rule of a builder by operands with the given verdicts on a subject.  In
between, the builder is not called otherwise, and no node below its root is extended. -/
inductive Extends (leafText : Criterion → String)
    (answer : Subject → NodeId → Criterion → Trial State Bool) (subject : Subject)
    (position : Nat) :
    Session Criterion State → List (Action Subject Criterion) → List (Extension Bool) → Prop
  | done (session : Session Criterion State) :
      Extends leafText answer subject position session [] []
  | extended (session : Session Criterion State) (extension : Extension NodeId)
      (verdict : Extension Bool) (rest : List (Action Subject Criterion))
      (verdicts : List (Extension Bool))
      (gives : extension.Matches (session.Gives answer subject) verdict)
      (onward : Extends leafText answer subject position
        (session.act leafText answer (.callBuilder position extension.call)) rest verdicts) :
      Extends leafText answer subject position session
        (.callBuilder position extension.call :: rest) (verdict :: verdicts)
  | elsewhere (session : Session Criterion State) (action : Action Subject Criterion)
      (rest : List (Action Subject Criterion)) (verdicts : List (Extension Bool))
      (uncalled : ∀ call, action ≠ .callBuilder position call)
      (spares : ∀ root, session.builders[position]? = some ⟨some root, false⟩ →
        session.Spares action root)
      (onward : Extends leafText answer subject position (session.act leafText answer action)
        rest verdicts) :
      Extends leafText answer subject position session (action :: rest) verdicts

/-! ## One action -/

theorem builder_of_act_elsewhere (leafText : Criterion → String)
    (answer : Subject → NodeId → Criterion → Trial State Bool) (session : Session Criterion State)
    (action : Action Subject Criterion) (position : Nat) (builder : Builder)
    (found : session.builders[position]? = some builder)
    (uncalled : ∀ call, action ≠ .callBuilder position call) :
    (session.act leafText answer action).builders[position]? = some builder := by
  have handles := session.handles_of_act leafText answer action position
  generalize (session.act leafText answer action).builders[position]? = slot at handles
  cases handles with
  | kept _ _ => exact found
  | opened absent =>
      rw [absent] at found
      cases found
  | called call _ _ _ _ => exact absurd rfl (uncalled call)

/-- The root and the operands before an extension give the verdict of what it makes. -/
theorem judged_of_extension (answer : Subject → NodeId → Criterion → Trial State Bool)
    (subject : Subject) (session : Session Criterion State) (root : NodeId)
    (extension : Extension NodeId) (verdict : Extension Bool)
    (gives : extension.Matches (session.Gives answer subject) verdict)
    (made : NodeId) (later : Graph Criterion)
    (performed : session.graph.perform (extension.operation root) = (made, later))
    (result : Rule NodeId Criterion) (held : later.Holds result) (isMade : result.label = made)
    (steady : result.IsSteadyUnder (answer subject)) :
    ∃ first : Rule NodeId Criterion, first.label = root ∧ session.graph.Holds first ∧
      first.IsSteadyUnder (answer subject) ∧
      ∀ earlier, first.IsJudged (answer subject) earlier →
        result.IsJudged (answer subject) (verdict.apply earlier) := by
  obtain ⟨first, operands, isRoot, firstHeld, sameOperands, rfl⟩ :=
    session.graph.grown_of_extension later root made extension performed result held isMade
  obtain ⟨firstSteady, operandSteady⟩ := operands.steady_of_grow (answer subject) made first steady
  have operandsJudged : operands.Matches (Rule.IsJudged (answer subject)) verdict := by
    refine Extension.matches_comp _ _ _ extension operands verdict sameOperands gives ?_
    rintro _ operand member operandVerdict ⟨rfl, operandHeld⟩ ⟨rule, unfolded, judged⟩
    obtain ⟨sameLabel, ruleHeld⟩ := (Graph.rule?_eq_some_iff _ _ rule).mp unfolded
    obtain rfl := session.graph.holds_unique rule operand ruleHeld operandHeld sameLabel
    exact rule.isJudged_of_steady (answer subject) (operandSteady rule member) session.state
      operandVerdict judged
  refine ⟨first, isRoot, firstHeld, firstSteady, fun earlier judged => ?_⟩
  exact operands.isJudged_grow (answer subject) made first earlier judged verdict operandsJudged

/-! ## A run of extensions -/

/-- Completeness is carried forward, so that what is done elsewhere does not get below the root; the
rules are traced backward from the last one, which is known not to contain itself. -/
theorem extends_judged (leafText : Criterion → String)
    (answer : Subject → NodeId → Criterion → Trial State Bool) (subject : Subject)
    (position : Nat) (session : Session Criterion State)
    (actions : List (Action Subject Criterion)) (verdicts : List (Extension Bool))
    (extensions : Extends leafText answer subject position session actions verdicts)
    (root : NodeId) (atRoot : session.builders[position]? = some ⟨some root, false⟩)
    (complete : session.graph.IsComplete root) :
    ∃ made, (session.run leafText answer actions).builders[position]? =
        some ⟨some made, false⟩ ∧
      ∀ result : Rule NodeId Criterion, result.label = made →
        (session.run leafText answer actions).graph.Holds result →
        result.IsSteadyUnder (answer subject) →
        ∃ first : Rule NodeId Criterion, first.label = root ∧ session.graph.Holds first ∧
          first.IsSteadyUnder (answer subject) ∧
          ∀ verdict, first.IsJudged (answer subject) verdict →
            result.IsJudged (answer subject) (verdicts.foldl Extension.apply verdict) := by
  induction extensions generalizing root with
  | done session =>
      refine ⟨root, atRoot, fun result isRoot held steady => ?_⟩
      exact ⟨result, isRoot, held, steady, fun verdict judged => judged⟩
  | extended session extension verdict rest verdicts gives onward ih =>
      have performed := Builder.perform_extension session.graph root extension
      rcases made : session.graph.perform (extension.operation root) with ⟨middle, between⟩
      simp only [made] at performed
      obtain ⟨graphIs, builderIs⟩ := session.callBuilder_of_ok position _ _ _ _ atRoot performed
      have middleComplete : between.IsComplete middle := by
        apply session.graph.isComplete_of_extension between root middle extension made
        refine List.forall_mem_cons.mpr ⟨complete, fun source member => ?_⟩
        obtain ⟨_, rule, unfolded, -⟩ :=
          Extension.exists_of_matches _ extension verdict gives source member
        exact session.graph.isComplete_of_rule? source rule unfolded
      rw [← graphIs] at middleComplete
      obtain ⟨last, lastBuilder, backward⟩ := ih middle builderIs middleComplete
      refine ⟨last, lastBuilder, fun result isLast held steady => ?_⟩
      obtain ⟨grown, isMiddle, grownHeld, grownSteady, forward⟩ :=
        backward result isLast held steady
      rw [act, graphIs] at grownHeld
      obtain ⟨first, isRoot, firstHeld, firstSteady, step⟩ :=
        session.judged_of_extension answer subject root extension verdict gives middle between made
          grown grownHeld isMiddle grownSteady
      exact ⟨first, isRoot, firstHeld, firstSteady,
        fun earlier judged => forward _ (step earlier judged)⟩
  | elsewhere session action rest verdicts uncalled spares onward ih =>
      have appends := session.act_appends leafText answer action
      have apart := spares root atRoot
      have stays := session.builder_of_act_elsewhere leafText answer action position _ atRoot
        uncalled
      obtain ⟨last, lastBuilder, backward⟩ := ih root stays
        (Graph.isComplete_of_appends _ _ _ appends root complete apart)
      refine ⟨last, lastBuilder, fun result isLast held steady => ?_⟩
      obtain ⟨first, isRoot, firstHeld, firstSteady, forward⟩ :=
        backward result isLast held steady
      exact ⟨first, isRoot,
        Graph.holds_of_appends _ _ _ appends root complete apart first firstHeld isRoot,
        firstSteady, forward⟩

/-- A builder computes the left fold of its calls.  It is started with a rule that has a verdict on
a subject, and extended by operands that have one when they are passed, while other actions extend
no node below its root.  Then it can be finished, and unless the rule that it gives contains itself,
the verdict of that rule is made of the first verdict by the calls, one after the other, provided
its leaves answer without regard to the state.  The first rule may be a connective that is extended
in place, and operands may have nodes in common with it and with each other. -/
theorem builder_folds_calls_from_left (leafText : Criterion → String)
    (answer : Subject → NodeId → Criterion → Trial State Bool) (subject : Subject)
    (position : Nat) (session : Session Criterion State)
    (fresh : session.builders[position]? = some .empty) (first : NodeId) (verdict : Bool)
    (gives : session.Gives answer subject first verdict)
    (actions : List (Action Subject Criterion)) (verdicts : List (Extension Bool))
    (extensions : Extends leafText answer subject position
      (session.act leafText answer (.callBuilder position (.start first))) actions verdicts)
    (final : Session Criterion State)
    (finished : final = session.run leafText answer
      (.callBuilder position (.start first) :: actions ++ [.callBuilder position .build])) :
    ∃ root, final.builders[position]? = some ⟨some root, true⟩ ∧
      (final.graph.IsAcyclicFrom root → ∃ rule, final.graph.rule? root = some rule ∧
        (rule.IsSteadyUnder (answer subject) → ∀ state,
          (rule.judge (answer subject)).outcome state =
            .ok (verdicts.foldl Extension.apply verdict))) := by
  obtain ⟨rule, unfolded, judged⟩ := gives
  obtain ⟨isFirst, ruleHeld⟩ := (Graph.rule?_eq_some_iff _ first rule).mp unfolded
  obtain ⟨startedGraph, startedBuilder⟩ := session.callBuilder_of_ok position .empty
    ⟨some first, false⟩ session.graph (.start first) fresh rfl
  rw [← startedGraph] at unfolded ruleHeld
  obtain ⟨root, lastBuilder, backward⟩ := extends_judged leafText answer subject position _ actions
    verdicts extensions first startedBuilder (Graph.isComplete_of_rule? _ first rule unfolded)
  rw [run_concat] at finished
  change final = callBuilder (run leafText answer _ actions) position .build at finished
  obtain ⟨sealedGraph, builtBuilder⟩ := callBuilder_of_ok _ position _ ⟨some root, true⟩ _ .build
    lastBuilder rfl
  rw [← finished] at sealedGraph builtBuilder
  refine ⟨root, builtBuilder, fun acyclic => ?_⟩
  obtain ⟨result, resultUnfolded⟩ := (Graph.rule?_isSome_iff final.graph root).mpr acyclic
  refine ⟨result, resultUnfolded, fun steady => ?_⟩
  obtain ⟨isRoot, resultHeld⟩ := (Graph.rule?_eq_some_iff _ root result).mp resultUnfolded
  rw [sealedGraph, Graph.holds_sealRule_iff] at resultHeld
  obtain ⟨initial, isInitial, initialHeld, initialSteady, forward⟩ :=
    backward result isRoot resultHeld steady
  -- the rule that the last one is traced back to is the one that the builder was started with
  obtain rfl :=
    Graph.holds_unique _ initial rule initialHeld ruleHeld (isInitial.trans isFirst.symm)
  exact forward verdict
    (initial.isJudged_of_steady (answer subject) initialSteady session.state verdict judged)

end

def assembly (conjuncts disjuncts : List NodeId) (further : List (Node Criterion))
    (builder : Builder) : Session Criterion CallHistory :=
  ⟨⟨(⟨.leaf (.flagged "a"), false⟩ :: ⟨.leaf (.flagged "b"), false⟩ ::
      ⟨.compound .conjunction conjuncts, false⟩ :: ⟨.compound .disjunction disjuncts, false⟩ ::
      further).toArray⟩, [builder], []⟩

/-- The builder extends the conjunction by the second flag and by itself, and goes on from it with
the disjunction, which is extended in between. -/
def assembling : List (Action Subject Criterion) :=
  [.callBuilder 0 (.join .conjunction 1), .operate (.join .disjunction 3 1),
    .callBuilder 0 (.join .conjunction 2), .callBuilder 0 (.exclude 3), .callBuilder 0 .negate]

def firstFlagOnly : Subject :=
  .plain [("a", .boolean true), ("b", .boolean false)]

def assembled : Session Criterion CallHistory :=
  ⟨⟨#[⟨.leaf (.flagged "a"), true⟩, ⟨.leaf (.flagged "b"), true⟩,
    ⟨.compound .conjunction [0, 1, 0, 1], true⟩, ⟨.compound .disjunction [0, 1], true⟩,
    ⟨.exclusive 2 3, true⟩, ⟨.negation 4, true⟩]⟩, [⟨some 5, true⟩], []⟩

theorem assembling_extends :
    Extends Criterion.text Criterion.answer firstFlagOnly 0 (assembly [0] [0] [] ⟨some 2, false⟩)
      assembling
      [.join .conjunction false, .join .conjunction false, .exclude true, .negate] := by
  refine .extended _ (.join .conjunction 1) _ _ _ (.join _ _ _ ⟨_, rfl, rfl⟩) ?_
  change Extends _ _ _ _ (assembly [0, 1] [0] [] ⟨some 2, false⟩) _ _
  refine .elsewhere _ _ _ _ (by simp) ?_ ?_
  · rintro root ⟨⟩
    refine spares_of_labels _ _ 2 _ rfl ?_
    rintro connective receiver ⟨⟩
    decide
  change Extends _ _ _ _ (assembly [0, 1] [0, 1] [] ⟨some 2, false⟩) _ _
  refine .extended _ (.join .conjunction 2) _ _ _ (.join _ _ _ ⟨_, rfl, rfl⟩) ?_
  change Extends _ _ _ _ (assembly [0, 1, 0, 1] [0, 1] [] ⟨some 2, false⟩) _ _
  refine .extended _ (.exclude 3) _ _ _ (.exclude _ _ ⟨_, rfl, rfl⟩) ?_
  exact .extended _ .negate _ _ _ .negate (.done _)

/-- The fold of the verdicts is that of the rule: true and false and false, or else true, and not
both, is true, and its negation false. -/
theorem extended_conjunction_folds_to_false :
    (assembly [0] [0] [] .empty).run Criterion.text Criterion.answer
        (.callBuilder 0 (.start 2) :: assembling ++ [.callBuilder 0 .build]) = assembled ∧
      ∃ rule, assembled.graph.rule? 5 = some rule ∧ ∀ history,
        (rule.judge (Criterion.answer firstFlagOnly)).outcome history = .ok false := by
  have ends : (assembly [0] [0] [] .empty).run Criterion.text Criterion.answer
      (.callBuilder 0 (.start 2) :: assembling ++ [.callBuilder 0 .build]) = assembled := by
    change run _ _ (assembly [0] [0] [] ⟨some 2, false⟩) _ = _
    change run _ _ (assembly [0, 1] [0] [] ⟨some 2, false⟩) _ = _
    change run _ _ (assembly [0, 1] [0, 1] [] ⟨some 2, false⟩) _ = _
    change run _ _ (assembly [0, 1, 0, 1] [0, 1] [] ⟨some 2, false⟩) _ = _
    change run _ _ (assembly [0, 1, 0, 1] [0, 1] [⟨.exclusive 2 3, false⟩] ⟨some 4, false⟩) _ = _
    rfl
  obtain ⟨root, built, folds⟩ := builder_folds_calls_from_left Criterion.text Criterion.answer
    firstFlagOnly 0 (assembly [0] [0] [] .empty) rfl 2 true ⟨_, rfl, rfl⟩ assembling _
    assembling_extends assembled ends.symm
  cases built
  obtain ⟨rule, unfolded, verdict⟩ := folds ((Graph.rule?_isSome_iff _ 5).mp ⟨_, rfl⟩)
  refine ⟨ends, rule, unfolded, verdict ?_⟩
  have known : assembled.graph.rule? 5 = some (.negation 5 (.exclusive 4
      (.compound 2 .conjunction [.leaf 0 (.flagged "a"), .leaf 1 (.flagged "b"),
        .leaf 0 (.flagged "a"), .leaf 1 (.flagged "b")])
      (.compound 3 .disjunction [.leaf 0 (.flagged "a"), .leaf 1 (.flagged "b")]))) := rfl
  obtain rfl := Option.some.inj (known.symm.trans unfolded)
  intro leaf member
  have isFlag : ∃ name, leaf.2 = .flagged name := by
    simp only [Rule.leaves_negation, Rule.leaves_exclusive, Rule.leaves_compound,
      List.flatMap_cons, List.flatMap_nil, Rule.leaves_leaf, List.mem_append, List.mem_singleton,
      List.not_mem_nil, or_false] at member
    rcases member with (rfl | rfl | rfl | rfl) | rfl | rfl <;> exact ⟨_, rfl⟩
  obtain ⟨name, isFlag⟩ := isFlag
  rw [isFlag]
  exact fun _ _ => rfl

end Session

end Eligibility
