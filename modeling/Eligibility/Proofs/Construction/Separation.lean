import Eligibility.Proofs.Construction.Program
import Eligibility.Proofs.Graph.Sealing

/-!
# Separation in programs

The rules of the results that are not consumed yet are apart from each other, so that an operation
on some of them leaves the others as they are.  Seals make no difference to that.
-/

set_option autoImplicit false

namespace Eligibility

variable {Criterion : Type}

namespace Graph

/-! ## One operation -/

theorem apart_symm (first second : Rule NodeId Criterion) (apart : Apart first second) :
    Apart second first :=
  ⟨apart.2, apart.1⟩

theorem plant_yields (graph later : Graph Criterion) (shape : Shape Criterion)
    (rules : Nat → Rule NodeId Criterion) (made : NodeId)
    (held : ∀ number ∈ shape.children, graph.Holds (rules number))
    (allocated : graph.allocate (shape.renumber fun number => (rules number).label) =
      (made, later)) :
    ∃ result : Rule NodeId Criterion, result.label = made ∧
      Yields graph later (shape.children.map rules) result ∧
      result.form = shape.plant (some made) none fun number => (rules number).form := by
  obtain ⟨rfl, rfl⟩ := Prod.mk.inj allocated
  refine ⟨shape.plant graph.nodes.size graph.nodes.size rules, Shape.label_plant .., ?_,
    Shape.rename_plant ..⟩
  rw [← Shape.shape_plant graph.nodes.size graph.nodes.size]
  apply allocate_yields graph _ _ (Shape.label_plant ..)
  · rw [Shape.parts_plant]
    exact List.forall_mem_map.mpr held
  · rw [Shape.parts_plant]
    exact fun part member id inside => ⟨part, member, inside⟩

theorem perform_yields (graph later : Graph Criterion) (operation : Operation Criterion)
    (composes : operation.isSeal = false) (rules : Nat → Rule NodeId Criterion) (made : NodeId)
    (held : ∀ number ∈ operation.operands, graph.Holds (rules number))
    (apart : (operation.operands.map rules).Pairwise Apart)
    (performed : graph.perform (operation.renumber fun number => (rules number).label) =
      (made, later)) :
    ∃ result : Rule NodeId Criterion, result.label = made ∧
      Yields graph later (operation.operands.map rules) result ∧
      result.form = operation.grow (some made) none fun number => (rules number).form := by
  cases operation with
  | create shape => exact plant_yields graph later shape rules made held performed
  | exclude left right =>
      exact plant_yields graph later (.exclusive left right) rules made held performed
  | negate operand => exact plant_yields graph later (.negation operand) rules made held performed
  | join connective receiver other =>
      have yields := join_yields graph connective (rules receiver) (rules other)
        (held receiver (by simp [Operation.operands])) (held other (by simp [Operation.operands]))
        ((List.pairwise_cons.mp apart).1 (rules other) (by simp)) made later performed
      exact ⟨_, rfl, yields, Rule.rename_joined ..⟩
  | joinAll connective numbers =>
      cases numbers with
      | nil =>
          exact plant_yields graph later (.constant connective.neutral) rules made held performed
      | cons first rest =>
          obtain ⟨firstHeld, restHeld⟩ := List.forall_mem_cons.mp held
          have folded : ((rest.map rules).map Rule.label).foldl
              (fun reached next => reached.2.join connective reached.1 next)
                ((rules first).label, graph) = (made, later) := by
            rw [List.map_map]
            exact performed
          obtain ⟨result, isMade, yields, form⟩ :=
            fold_join_yields connective (rest.map rules) graph (rules first) firstHeld
              (List.forall_mem_map.mpr restHeld) apart made later folded
          refine ⟨result, isMade, yields, ?_⟩
          rw [form, List.map_map]
          rfl
  | sealRule number => cases composes

theorem size_le_of_evolves (graph later : Graph Criterion) (evolves : graph.Evolves later) :
    graph.nodes.size ≤ later.nodes.size := by
  induction evolves with
  | refl => exact Nat.le_refl _
  | tail earlier change ih =>
      apply Nat.le_trans ih
      cases change with
      | allocate shape => exact (allocate_keepsSealed _ shape).size_le
      | extend connective target children added isOpen =>
          exact (extend_keepsSealed _ connective target children _ isOpen).size_le
      | sealRule root =>
          unfold sealRule
          split
          next => exact Nat.le_of_eq (size_sealNodes ..).symm
          next => exact Nat.le_refl _

end Graph

namespace Construction

open Eligibility.Graph (Operation Apart)

/-! ## The invariant -/

/-- A result that may still be used: a connective must not be consumed yet. -/
def IsOwned (trees : List (Tree Criterion)) (used : List Nat) (number : Nat) : Prop :=
  number < trees.length ∧ ((treeAt trees number).isCompound = true → number ∉ used)

/-- The graph holds the trees of the results that may still be used, and keeps them apart. -/
structure Follows (node : Nat → NodeId) (trees : List (Tree Criterion)) (used : List Nat)
    (graph : Graph Criterion) (rules : Nat → Rule NodeId Criterion) : Prop where
  root : ∀ number, (rules number).label = node number
  held : ∀ number, IsOwned trees used number → graph.Holds (rules number)
  form : ∀ number, IsOwned trees used number →
    (rules number).form = (treeAt trees number).rename (Option.map node) (Option.map node)
  apart : ∀ first second, IsOwned trees used first → IsOwned trees used second →
    first ≠ second → Apart (rules first) (rules second)

theorem isCompound_of_follows (node : Nat → NodeId) (trees : List (Tree Criterion))
    (used : List Nat) (graph : Graph Criterion) (rules : Nat → Rule NodeId Criterion)
    (follows : Follows node trees used graph rules) (number : Nat)
    (owned : IsOwned trees used number) :
    (rules number).isCompound = (treeAt trees number).isCompound := by
  have same := congrArg Rule.isCompound (follows.form number owned)
  rwa [Rule.form, Rule.isCompound_rename, Rule.isCompound_rename] at same

theorem treeAt_growNext_next (trees : List (Tree Criterion)) (operation : Operation Criterion) :
    treeAt (growNext trees operation) trees.length =
      operation.grow (some trees.length) none (treeAt trees) := by
  simp [treeAt, growNext]

theorem treeAt_growNext_earlier (trees : List (Tree Criterion)) (operation : Operation Criterion)
    (number : Nat) (bound : number < trees.length) :
    treeAt (growNext trees operation) number = treeAt trees number :=
  List.getD_append _ _ _ _ bound

theorem pairwise_of_distinct {relation : Nat → Nat → Prop} (numbers : List Nat)
    (distinct : ∀ first ∈ numbers, ∀ second ∈ numbers, first ≠ second → relation first second)
    (repeated : ∀ number ∈ numbers, 1 < numbers.count number → relation number number) :
    numbers.Pairwise relation := by
  induction numbers with
  | nil => exact .nil
  | cons first rest ih =>
      refine .cons (fun second member => ?_) (ih ?_ ?_)
      · by_cases same : first = second
        · subst same
          apply repeated first (by simp)
          rw [List.count_cons_self]
          have occurs := List.count_pos_iff.mpr member
          omega
        · exact distinct first (by simp) second (by simp [member]) same
      · exact fun left leftMember right rightMember =>
          distinct left (by simp [leftMember]) right (by simp [rightMember])
      · intro number member twice
        apply repeated number (by simp [member])
        have more : rest.count number ≤ (first :: rest).count number :=
          List.Sublist.count_le number (List.sublist_cons_self first rest)
        omega

theorem follows_nil (node : Nat → NodeId) :
    ∃ rules, Follows node [] [] (.empty : Graph Criterion) rules := by
  have nothing : ∀ number, ¬IsOwned ([] : List (Tree Criterion)) [] number := by
    intro number owned
    exact Nat.not_lt_zero number owned.1
  refine ⟨fun number => .constant (node number) false, fun number => rfl, ?_, ?_, ?_⟩
  · exact fun number owned => absurd owned (nothing number)
  · exact fun number owned => absurd owned (nothing number)
  · exact fun first _ owned => absurd owned (nothing first)

section Step

variable (node : Nat → NodeId) (trees : List (Tree Criterion)) (used : List Nat)
  (graph : Graph Criterion) (rules : Nat → Rule NodeId Criterion)
  (operation : Operation Criterion)

theorem operand_owned (inScope : ∀ number ∈ operation.operands, number < trees.length)
    (single : ∀ number < trees.length, (treeAt trees number).isCompound = true →
      (used ++ operation.operands).count number ≤ 1) :
    ∀ number ∈ operation.operands, IsOwned trees used number := by
  intro number member
  refine ⟨inScope number member, fun isCompound consumed => ?_⟩
  have once := single number (inScope number member) isCompound
  have before := List.count_pos_iff.mpr consumed
  have now := List.count_pos_iff.mpr member
  rw [List.count_append] at once
  omega

theorem operands_apart (follows : Follows node trees used graph rules)
    (owned : ∀ number ∈ operation.operands, IsOwned trees used number)
    (single : ∀ number < trees.length, (treeAt trees number).isCompound = true →
      (used ++ operation.operands).count number ≤ 1) :
    (operation.operands.map rules).Pairwise Apart := by
  rw [List.pairwise_map]
  apply pairwise_of_distinct
  · exact fun first firstMember second secondMember =>
      follows.apart first second (owned first firstMember) (owned second secondMember)
  · intro number member twice
    apply Graph.apart_self
    rw [isCompound_of_follows node trees used graph rules follows number (owned number member),
      Bool.eq_false_iff]
    intro isCompound
    have once := single number (owned number member).1 isCompound
    rw [List.count_append] at once
    omega

/-- The step: the result joins those that may be used, connectives among the operands leave them,
and all others stay as they are. -/
theorem follows_compose (later : Graph Criterion) (composes : operation.isSeal = false)
    (follows : Follows node trees used graph rules)
    (inScope : ∀ number ∈ operation.operands, number < trees.length)
    (single : ∀ number < trees.length, (treeAt trees number).isCompound = true →
      (used ++ operation.operands).count number ≤ 1)
    (performed : graph.perform (operation.renumber node) = (node trees.length, later)) :
    ∃ next, Follows node (growNext trees operation) (used ++ operation.operands) later next ∧
      later.Holds (next trees.length) := by
  have owned := operand_owned trees used operation inScope single
  have sameNumbers : (fun number => (rules number).label) = node := funext follows.root
  obtain ⟨result, isResult, yields, form⟩ := graph.perform_yields later operation composes rules
    (node trees.length) (fun number member => follows.held number (owned number member))
    (operands_apart node trees used graph rules operation follows owned single)
    (by rw [sameNumbers, performed])
  -- what may still be used was owned before, and no connective among it is an operand
  have earlierOwned : ∀ number, number ≠ trees.length →
      IsOwned (growNext trees operation) (used ++ operation.operands) number →
      IsOwned trees used number ∧ treeAt (growNext trees operation) number = treeAt trees number ∧
        ((treeAt trees number).isCompound = true → number ∉ operation.operands) := by
    rintro number differs ⟨bound, unconsumed⟩
    have within : number < trees.length := by
      simp only [growNext, List.length_append, List.length_singleton] at bound
      omega
    have sameTree := treeAt_growNext_earlier trees operation number within
    rw [sameTree, List.mem_append, not_or] at unconsumed
    exact ⟨⟨within, fun isCompound => (unconsumed isCompound).1⟩, sameTree,
      fun isCompound => (unconsumed isCompound).2⟩
  -- so the frame applies to it; an operand that is shared is apart from itself
  have framed : ∀ number, number ≠ trees.length →
      IsOwned (growNext trees operation) (used ++ operation.operands) number →
      later.Holds (rules number) ∧ Apart result (rules number) := by
    intro number differs isOwned
    obtain ⟨stillOwned, -, notOperand⟩ := earlierOwned number differs isOwned
    apply yields.frame (rules number) (follows.held number stillOwned)
    intro operand member
    obtain ⟨other, otherMember, rfl⟩ := List.mem_map.mp member
    by_cases same : other = number
    · subst same
      apply Graph.apart_self
      rw [isCompound_of_follows node trees used graph rules follows other stillOwned,
        Bool.eq_false_iff]
      exact fun isCompound => notOperand isCompound otherMember
    · exact follows.apart other number (owned other otherMember) stillOwned same
  refine ⟨fun number => if number = trees.length then result else rules number, ⟨?_, ?_, ?_, ?_⟩,
    by simpa using yields.held⟩
  · intro number
    by_cases isNew : number = trees.length
    · simp [isNew, isResult]
    · simp [isNew, follows.root number]
  · intro number isOwned
    by_cases isNew : number = trees.length
    · simpa [isNew] using yields.held
    · simpa [isNew] using (framed number isNew isOwned).1
  · intro number isOwned
    by_cases isNew : number = trees.length
    · subst isNew
      rw [if_pos rfl, form, treeAt_growNext_next, Operation.rename_grow]
      exact Operation.grow_congr _ _ _ _ operation composes fun operand member =>
        follows.form operand (owned operand member)
    · obtain ⟨stillOwned, sameTree, -⟩ := earlierOwned number isNew isOwned
      rw [if_neg isNew, sameTree]
      exact follows.form number stillOwned
  · intro first second firstOwned secondOwned differ
    by_cases firstNew : first = trees.length
    · have secondOld : second ≠ trees.length := fun same => differ (firstNew.trans same.symm)
      simpa [firstNew, secondOld] using (framed second secondOld secondOwned).2
    · by_cases secondNew : second = trees.length
      · simpa [firstNew, secondNew] using
          Graph.apart_symm _ _ (framed first firstNew firstOwned).2
      · simpa [firstNew, secondNew] using follows.apart first second
          (earlierOwned first firstNew firstOwned).1 (earlierOwned second secondNew secondOwned).1
          differ

theorem follows_seal (id : NodeId) (follows : Follows node trees used graph rules) :
    Follows node trees used (graph.sealRule id) rules where
  root := follows.root
  held := fun number owned =>
    (graph.holds_sealRule_iff id (rules number)).mpr (follows.held number owned)
  form := follows.form
  apart := follows.apart

end Step

end Construction

end Eligibility
