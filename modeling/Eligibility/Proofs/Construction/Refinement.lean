import Eligibility.Criterion.Basic
import Eligibility.Proofs.Construction.Separation

/-!
# Construction in place

As long as every conjunction and disjunction has one owner, extending nodes in place cannot be told
from building new trees.  Leaves stand for themselves: no two of them share a node.
-/

set_option autoImplicit false

namespace Eligibility

namespace Construction

open Eligibility.Graph (Operation)

section

variable {Criterion : Type}

/-! ## Leaves -/

theorem labels_of_plant (number : Nat) (tree : Nat → Tree Criterion) (shape : Shape Criterion)
    (leaf : Nat) (inside : some leaf ∈ (shape.plant (some number) none tree).labels) :
    leaf = number ∨ ∃ child ∈ shape.children, some leaf ∈ (tree child).labels := by
  rw [Rule.labels_eq_cons, List.mem_cons, List.mem_flatMap, Shape.parts_plant] at inside
  rcases inside with isRoot | ⟨part, member, inPart⟩
  · cases shape <;> simp [Shape.plant, Rule.label] at isRoot
    · exact .inl isRoot
    · exact .inl isRoot
  · obtain ⟨child, isChild, rfl⟩ := List.mem_map.mp member
    exact .inr ⟨child, isChild, inPart⟩

/-- A leaf of a grown tree is new, and then so is its node, or it is a leaf of an operand. -/
theorem labels_of_grow (number : Nat) (tree : Nat → Tree Criterion)
    (operation : Operation Criterion) (composes : operation.isSeal = false) (leaf : Nat)
    (inside : some leaf ∈ (operation.grow (some number) none tree).labels) :
    leaf = number ∧ (∀ (graph : Graph Criterion) (node : Nat → NodeId),
        (graph.perform (operation.renumber node)).1 = graph.nodes.size) ∨
      ∃ operand ∈ operation.operands, some leaf ∈ (tree operand).labels := by
  cases operation with
  | create shape =>
      exact (labels_of_plant number tree shape leaf inside).imp_left
        fun same => ⟨same, fun graph node => rfl⟩
  | exclude left right =>
      exact (labels_of_plant number tree (.exclusive left right) leaf inside).imp_left
        fun same => ⟨same, fun graph node => rfl⟩
  | negate operand =>
      exact (labels_of_plant number tree (.negation operand) leaf inside).imp_left
        fun same => ⟨same, fun graph node => rfl⟩
  | join connective receiver other =>
      right
      rcases Rule.labels_of_joined none connective _ _ _ inside with isRoot | inReceiver | inOther
      · cases isRoot
      · exact ⟨receiver, by simp [Operation.operands], inReceiver⟩
      · exact ⟨other, by simp [Operation.operands], inOther⟩
  | joinAll connective numbers =>
      cases numbers with
      | nil =>
          have same : some leaf = some number := by
            simpa [Operation.grow, Rule.joinedAll, Rule.labels] using inside
          exact .inl ⟨Option.some.inj same, fun graph node => rfl⟩
      | cons first rest =>
          right
          rcases Rule.labels_of_fold_joined none connective _ _ _ inside with
            isRoot | ⟨rule, member, inRule⟩
          · cases isRoot
          · obtain ⟨operand, isOperand, rfl⟩ := List.mem_map.mp (List.map_cons ▸ member)
            exact ⟨operand, isOperand, inRule⟩
  | sealRule number => cases composes

/-- Results stand for nodes of the graph.  The node of a leaf was new when the leaf was made. -/
structure Numbered (node : Nat → NodeId) (trees : List (Tree Criterion))
    (graph : Graph Criterion) : Prop where
  allocated : ∀ number < trees.length, node number < graph.nodes.size
  fresh : ∀ number < trees.length, ∀ leaf, some leaf ∈ (treeAt trees number).labels →
    ∀ other < leaf, node other ≠ node leaf

theorem numbered_nil (node : Nat → NodeId) : Numbered node [] (.empty : Graph Criterion) where
  allocated := fun number bound => absurd bound (Nat.not_lt_zero number)
  fresh := fun number bound => absurd bound (Nat.not_lt_zero number)

theorem numbered_mono (node : Nat → NodeId) (trees : List (Tree Criterion))
    (graph later : Graph Criterion) (numbered : Numbered node trees graph)
    (evolves : graph.Evolves later) : Numbered node trees later where
  allocated := fun number bound =>
    Nat.lt_of_lt_of_le (numbered.allocated number bound) (graph.size_le_of_evolves later evolves)
  fresh := numbered.fresh

theorem numbered_compose (node : Nat → NodeId) (trees : List (Tree Criterion))
    (graph later : Graph Criterion) (operation : Operation Criterion)
    (composes : operation.isSeal = false) (numbered : Numbered node trees graph)
    (inScope : ∀ number ∈ operation.operands, number < trees.length)
    (performed : graph.perform (operation.renumber node) = (node trees.length, later))
    (allocated : node trees.length < later.nodes.size) :
    Numbered node (growNext trees operation) later := by
  have evolves : graph.Evolves later := by
    have made := graph.perform_evolves (operation.renumber node)
    rwa [performed] at made
  have carried := numbered_mono node trees graph later numbered evolves
  have earlierOrNext : ∀ number < (growNext trees operation).length,
      number < trees.length ∨ number = trees.length := by
    intro number bound
    simp only [growNext, List.length_append, List.length_singleton] at bound
    omega
  refine ⟨fun number bound => ?_, fun number bound leaf inside other before => ?_⟩
  · rcases earlierOrNext number bound with within | rfl
    · exact carried.allocated number within
    · exact allocated
  · rcases earlierOrNext number bound with within | rfl
    · rw [treeAt_growNext_earlier trees operation number within] at inside
      exact carried.fresh number within leaf inside other before
    · rw [treeAt_growNext_next] at inside
      rcases labels_of_grow _ _ operation composes leaf inside with
        ⟨rfl, isNew⟩ | ⟨operand, member, below⟩
      · have made := isNew graph node
        rw [performed] at made
        exact Nat.ne_of_lt (Nat.lt_of_lt_of_eq (numbered.allocated other before) made.symm)
      · exact carried.fresh operand (inScope operand member) leaf below other before

/-! ## Whole programs -/

theorem perform_in_run (earlier later : List (Operation Criterion))
    (operation : Operation Criterion) (composes : operation.isSeal = false)
    (inScope : ∀ number ∈ operation.operands, number < (withoutSeals earlier).length) :
    (run earlier).graph.perform
        (operation.renumber (run (earlier ++ operation :: later)).node) =
      ((run (earlier ++ operation :: later)).node (withoutSeals earlier).length,
        (run (earlier ++ [operation])).graph) := by
  have sameOperands : operation.renumber (run (earlier ++ operation :: later)).node =
      operation.renumber (run earlier).node :=
    Operation.renumber_congr _ _ operation composes fun number member =>
      node_of_append earlier (operation :: later) number (inScope number member)
  have sameResult : (run (earlier ++ operation :: later)).node (withoutSeals earlier).length =
      (run (earlier ++ [operation])).node (withoutSeals earlier).length := by
    rw [List.append_cons]
    apply node_of_append
    simp [withoutSeals_snoc earlier operation composes]
  rw [sameOperands, sameResult, run_snoc]
  simp [State.step, State.node, composes, ← length_results]

/-- The graph follows the trees from one step of a program to the next, be it sealed or not. -/
theorem run_follows (program earlier later : List (Operation Criterion))
    (inScope : isScopedFrom 0 (withoutSeals program) = true)
    (singleOwner : IsSingleOwner (withoutSeals program)) (split : program = earlier ++ later) :
    Numbered (run program).node (treesOf (withoutSeals earlier)) (run earlier).graph ∧
      ∃ rules, Follows (run program).node (treesOf (withoutSeals earlier))
        (uses (withoutSeals earlier)) (run earlier).graph rules := by
  induction earlier using List.reverseRecOn generalizing later with
  | nil =>
      exact ⟨numbered_nil _, follows_nil _⟩
  | append_singleton earlier operation ih =>
      rw [List.append_assoc, List.singleton_append] at split
      obtain ⟨numbered, rules, follows⟩ := ih (operation :: later) split
      cases isSeal : operation.isSeal with
      | true =>
          cases operation with
          | sealRule number =>
              have sameSteps :
                  withoutSeals (earlier ++ [.sealRule number]) = withoutSeals earlier := by
                simp [withoutSeals, Operation.isSeal]
              rw [sameSteps, run_snoc]
              exact ⟨numbered_mono _ _ _ _ numbered (Graph.perform_evolves _ _),
                rules, follows_seal _ _ _ _ rules _ follows⟩
          | _ => cases isSeal
      | false =>
          have steps : withoutSeals program =
              withoutSeals earlier ++ operation :: withoutSeals later := by
            rw [split, List.append_cons, withoutSeals_append,
              withoutSeals_snoc earlier operation isSeal, List.append_assoc, List.singleton_append]
          rw [steps] at inScope singleOwner
          have operandsInScope := operands_in_scope _ _ operation 0 inScope
          rw [Nat.zero_add] at operandsInScope
          -- nodes are counted in the whole program, where the step gives the same ones
          have performed := perform_in_run earlier later operation isSeal operandsInScope
          have usedOnce := operand_used_once _ _ operation singleOwner
          rw [← split, ← length_treesOf (withoutSeals earlier)] at performed
          rw [← length_treesOf (withoutSeals earlier)] at operandsInScope usedOnce
          obtain ⟨next, nextFollows, held⟩ := follows_compose (run program).node
            (treesOf (withoutSeals earlier)) (uses (withoutSeals earlier)) (run earlier).graph rules
            operation (run (earlier ++ [operation])).graph isSeal follows operandsInScope usedOnce
            performed
          have allocated := Graph.label_lt_size _ _ held _ (next _).label_mem_labels
          rw [nextFollows.root] at allocated
          rw [withoutSeals_snoc earlier operation isSeal, treesOf_snoc, uses_append]
          refine ⟨numbered_compose _ _ _ _ operation isSeal numbered operandsInScope performed
            allocated, next, ?_⟩
          simpa [uses] using nextFollows

/-- Every result is the tree that is built without changing any other, from when it is returned
until it is consumed, and no leaf of it has the node of an earlier result.  Seals are no steps of
the trees, so wherever they stand they change none. -/
theorem construction_builds_immutable_trees
    (plain program earlier later : List (Operation Criterion))
    (inScope : isScopedFrom 0 plain = true) (singleOwner : IsSingleOwner plain)
    (interleaved : withoutSeals program = plain) (split : program = earlier ++ later) (number : Nat)
    (returned : number < (withoutSeals earlier).length)
    (unconsumed : (treeAt (treesOf plain) number).isCompound = true → number ∉ uses earlier) :
    (run earlier).node number = (run program).node number ∧
      (∃ rule, (run earlier).graph.rule? ((run program).node number) = some rule ∧
        rule.form = (treeAt (treesOf plain) number).rename
          (Option.map (run program).node) (Option.map (run program).node)) ∧
      ∀ leaf, some leaf ∈ (treeAt (treesOf plain) number).labels →
        ∀ other < leaf, (run program).node other ≠ (run program).node leaf := by
  subst interleaved
  obtain ⟨numbered, rules, follows⟩ :=
    run_follows program earlier later inScope singleOwner split
  have within : number < (treesOf (withoutSeals earlier)).length := by rwa [length_treesOf]
  have sameTree : treeAt (treesOf (withoutSeals program)) number =
      treeAt (treesOf (withoutSeals earlier)) number := by
    rw [split, withoutSeals_append]
    exact treeAt_of_append _ _ number returned
  rw [sameTree] at unconsumed ⊢
  have owned : IsOwned (treesOf (withoutSeals earlier)) (uses (withoutSeals earlier)) number := by
    refine ⟨within, ?_⟩
    rwa [uses_withoutSeals]
  refine ⟨?_, ⟨rules number, ?_, follows.form number owned⟩, numbered.fresh number within⟩
  · rw [split, node_of_append earlier later number returned]
  · rw [Graph.rule?_eq_some_iff]
    exact ⟨follows.root number, follows.held number owned⟩

end

def flagSteps : List (Operation Criterion) :=
  [.create (.leaf (.flagged "a")), .create (.leaf (.flagged "b")),
    .create (.compound .conjunction [0, 1]), .create (.leaf (.flagged "c")),
    .join .conjunction 2 3, .negate 3, .create (.compound .disjunction [0, 5]),
    .joinAll .conjunction [4, 6, 1], .exclude 7 3]

def sealedFlagSteps : List (Operation Criterion) :=
  flagSteps.take 3 ++ .sealRule 2 :: flagSteps.drop 3

/-- The conjunction becomes another node once it is sealed, and the same tree. -/
theorem sealed_conjunction_grows_same_tree :
    ∃ extended renewed,
      (run (flagSteps.take 8)).graph.rule? 2 = some extended ∧
      (run (sealedFlagSteps.take 9)).graph.rule? 4 = some renewed ∧
      extended.form = renewed.form ∧
      extended.form = .compound none .conjunction
        [.leaf (some 0) (.flagged "a"), .leaf (some 1) (.flagged "b"),
          .leaf (some 3) (.flagged "c"),
          .compound none .disjunction [.leaf (some 0) (.flagged "a"),
            .negation none (.leaf (some 3) (.flagged "c"))],
          .leaf (some 1) (.flagged "b")] := by
  have singleOwner : IsSingleOwner flagSteps := by
    unfold IsSingleOwner
    decide
  have tree : treeAt (treesOf flagSteps) 7 = .compound none .conjunction
      [.leaf (some 0) (.flagged "a"), .leaf (some 1) (.flagged "b"), .leaf (some 3) (.flagged "c"),
        .compound none .disjunction [.leaf (some 0) (.flagged "a"),
          .negation none (.leaf (some 3) (.flagged "c"))],
        .leaf (some 1) (.flagged "b")] := rfl
  have nodes : (run flagSteps).node = fun number =>
      List.getD [0, 1, 2, 3, 2, 4, 5, 2, 6] number 0 := by
    have results : (run flagSteps).results = [0, 1, 2, 3, 2, 4, 5, 2, 6] := by decide
    funext number
    rw [State.node, results]
  have renewedNodes : (run sealedFlagSteps).node = fun number =>
      List.getD [0, 1, 2, 3, 4, 5, 6, 4, 7] number 0 := by
    have results : (run sealedFlagSteps).results = [0, 1, 2, 3, 4, 5, 6, 4, 7] := by decide
    funext number
    rw [State.node, results]
  obtain ⟨-, ⟨extended, isExtended, extendedForm⟩, -⟩ :=
    construction_builds_immutable_trees flagSteps flagSteps (flagSteps.take 8) (flagSteps.drop 8)
      (by decide) singleOwner rfl rfl 7 (by decide) (by decide)
  obtain ⟨-, ⟨renewed, isRenewed, renewedForm⟩, -⟩ :=
    construction_builds_immutable_trees flagSteps sealedFlagSteps (sealedFlagSteps.take 9)
      (sealedFlagSteps.drop 9) (by decide) singleOwner rfl rfl 7 (by decide) (by decide)
  rw [tree, nodes] at extendedForm
  rw [tree, renewedNodes] at renewedForm
  rw [nodes] at isExtended
  rw [renewedNodes] at isRenewed
  exact ⟨extended, renewed, isExtended, isRenewed, extendedForm.trans renewedForm.symm,
    extendedForm⟩

end Construction

end Eligibility
