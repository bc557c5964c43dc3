import Eligibility.Proofs.Graph.Ownership
import Mathlib.Data.List.GetD

/-!
# Programs of compositions

A program is a list of operations whose operands are results of earlier ones, by number.  It is run
in a graph, where nodes are extended in place, and it is run on trees that nothing changes.  To
seal a node gives no result of its own.
-/

set_option autoImplicit false

namespace Eligibility

variable {Label Other Criterion : Type}

namespace Shape

def renumber (node : Nat → NodeId) : Shape Criterion → Shape Criterion
  | .leaf criterion => .leaf criterion
  | .constant verdict => .constant verdict
  | .compound connective children => .compound connective (children.map node)
  | .exclusive left right => .exclusive (node left) (node right)
  | .negation operand => .negation (node operand)

def plant (leaf inner : Label) (tree : Nat → Rule Label Criterion) :
    Shape Criterion → Rule Label Criterion
  | .leaf criterion => .leaf leaf criterion
  | .constant verdict => .constant leaf verdict
  | .compound connective children => .compound inner connective (children.map tree)
  | .exclusive left right => .exclusive inner (tree left) (tree right)
  | .negation operand => .negation inner (tree operand)

theorem plant_congr (leaf inner : Label) (tree same : Nat → Rule Label Criterion)
    (shape : Shape Criterion) (agree : ∀ number ∈ shape.children, tree number = same number) :
    shape.plant leaf inner tree = shape.plant leaf inner same := by
  cases shape with
  | leaf criterion => rfl
  | constant verdict => rfl
  | compound connective children =>
      have sameTrees : children.map tree = children.map same := List.map_congr_left agree
      rw [plant, plant, sameTrees]
  | exclusive left right =>
      rw [plant, plant, agree left (by simp [children]), agree right (by simp [children])]
  | negation operand => rw [plant, plant, agree operand (by simp [children])]

theorem renumber_congr (node same : Nat → NodeId) (shape : Shape Criterion)
    (agree : ∀ number ∈ shape.children, node number = same number) :
    shape.renumber node = shape.renumber same := by
  cases shape with
  | leaf criterion => rfl
  | constant verdict => rfl
  | compound connective children =>
      have sameNodes : children.map node = children.map same := List.map_congr_left agree
      rw [renumber, renumber, sameNodes]
  | exclusive left right =>
      rw [renumber, renumber, agree left (by simp [children]), agree right (by simp [children])]
  | negation operand => rw [renumber, renumber, agree operand (by simp [children])]

theorem rename_plant (rename inside : Label → Other) (leaf inner : Label)
    (tree : Nat → Rule Label Criterion) (shape : Shape Criterion) :
    (shape.plant leaf inner tree).rename rename inside =
      shape.plant (rename leaf) (inside inner)
        fun number => (tree number).rename rename inside := by
  cases shape <;> simp [plant, Rule.rename]

theorem label_plant (label : Label) (tree : Nat → Rule Label Criterion)
    (shape : Shape Criterion) : (shape.plant label label tree).label = label := by
  cases shape <;> rfl

theorem parts_plant (leaf inner : Label) (tree : Nat → Rule Label Criterion)
    (shape : Shape Criterion) : (shape.plant leaf inner tree).parts = shape.children.map tree := by
  cases shape <;> rfl

theorem shape_plant (leaf inner : NodeId) (tree : Nat → Rule NodeId Criterion)
    (shape : Shape Criterion) :
    (shape.plant leaf inner tree).shape = shape.renumber fun number => (tree number).label := by
  cases shape <;> simp [plant, Rule.shape, renumber]

end Shape

namespace Graph.Operation

def operands : Operation Criterion → List Nat
  | .create shape => shape.children
  | .join _ receiver other => [receiver, other]
  | .joinAll _ numbers => numbers
  | .exclude left right => [left, right]
  | .negate operand => [operand]
  | .sealRule _ => []

def isSeal : Operation Criterion → Bool
  | .sealRule _ => true
  | _ => false

def renumber (node : Nat → NodeId) : Operation Criterion → Operation Criterion
  | .create shape => .create (shape.renumber node)
  | .join connective receiver other => .join connective (node receiver) (node other)
  | .joinAll connective numbers => .joinAll connective (numbers.map node)
  | .exclude left right => .exclude (node left) (node right)
  | .negate operand => .negate (node operand)
  | .sealRule number => .sealRule (node number)

def grow (leaf inner : Label) (tree : Nat → Rule Label Criterion) :
    Operation Criterion → Rule Label Criterion
  | .create shape => shape.plant leaf inner tree
  | .join connective receiver other =>
    Rule.joined inner connective (tree receiver) (tree other)
  | .joinAll connective numbers => Rule.joinedAll leaf inner connective (numbers.map tree)
  | .exclude left right => .exclusive inner (tree left) (tree right)
  | .negate operand => .negation inner (tree operand)
  | .sealRule number => tree number

theorem renumber_congr (node same : Nat → NodeId) (operation : Operation Criterion)
    (composes : operation.isSeal = false)
    (agree : ∀ number ∈ operation.operands, node number = same number) :
    operation.renumber node = operation.renumber same := by
  cases operation with
  | create shape => rw [renumber, renumber, Shape.renumber_congr node same shape agree]
  | join connective receiver other =>
      rw [renumber, renumber, agree receiver (by simp [operands]), agree other (by simp [operands])]
  | joinAll connective numbers =>
      have sameNodes : numbers.map node = numbers.map same := List.map_congr_left agree
      rw [renumber, renumber, sameNodes]
  | exclude left right =>
      rw [renumber, renumber, agree left (by simp [operands]), agree right (by simp [operands])]
  | negate operand => rw [renumber, renumber, agree operand (by simp [operands])]
  | sealRule number => cases composes

theorem grow_congr (leaf inner : Label) (tree same : Nat → Rule Label Criterion)
    (operation : Operation Criterion) (composes : operation.isSeal = false)
    (agree : ∀ number ∈ operation.operands, tree number = same number) :
    operation.grow leaf inner tree = operation.grow leaf inner same := by
  cases operation with
  | create shape => exact Shape.plant_congr leaf inner tree same shape agree
  | join connective receiver other =>
      rw [grow, grow, agree receiver (by simp [operands]), agree other (by simp [operands])]
  | joinAll connective numbers =>
      have sameTrees : numbers.map tree = numbers.map same := List.map_congr_left agree
      rw [grow, grow, sameTrees]
  | exclude left right =>
      rw [grow, grow, agree left (by simp [operands]), agree right (by simp [operands])]
  | negate operand => rw [grow, grow, agree operand (by simp [operands])]
  | sealRule number => cases composes

theorem rename_grow (rename inside : Label → Other) (leaf inner : Label)
    (tree : Nat → Rule Label Criterion) (operation : Operation Criterion) :
    (operation.grow leaf inner tree).rename rename inside =
      operation.grow (rename leaf) (inside inner)
        fun number => (tree number).rename rename inside := by
  cases operation with
  | create shape => exact Shape.rename_plant rename inside leaf inner tree shape
  | join connective receiver other =>
      exact Rule.rename_joined rename inside inner connective (tree receiver) (tree other)
  | joinAll connective numbers =>
      rw [grow, Rule.rename_joinedAll, List.map_map]
      rfl
  | exclude left right => rfl
  | negate operand => rfl
  | sealRule number => rfl

end Graph.Operation

namespace Construction

open Eligibility.Graph (Operation)

/-! ## Runs in a graph -/

/-- The nodes that were returned, in order, and the graph. -/
structure State (Criterion : Type) where
  results : List NodeId
  graph : Graph Criterion

namespace State

def node (state : State Criterion) (number : Nat) : NodeId :=
  state.results.getD number 0

def step (state : State Criterion) (operation : Operation Criterion) : State Criterion :=
  let made := state.graph.perform (operation.renumber state.node)
  ⟨if operation.isSeal then state.results else state.results ++ [made.1], made.2⟩

end State

def run (program : List (Operation Criterion)) : State Criterion :=
  program.foldl State.step ⟨[], .empty⟩

/-! ## Runs on trees -/

/-- A tree whose leaves carry the number of the operation that made them. -/
abbrev Tree (Criterion : Type) := Rule (Option Nat) Criterion

def treeAt (trees : List (Tree Criterion)) (number : Nat) : Tree Criterion :=
  trees.getD number (.constant none false)

def growNext (trees : List (Tree Criterion)) (operation : Operation Criterion) :
    List (Tree Criterion) :=
  trees ++ [operation.grow (some trees.length) none (treeAt trees)]

def treesOf (program : List (Operation Criterion)) : List (Tree Criterion) :=
  program.foldl growNext []

/-! ## Programs with one owner for each connective -/

def withoutSeals (program : List (Operation Criterion)) : List (Operation Criterion) :=
  program.filter fun operation => !operation.isSeal

/-- The numbers of the operands of all the operations, with repetition. -/
def uses (program : List (Operation Criterion)) : List Nat :=
  program.flatMap Operation.operands

/-- Every operand is a result of an earlier operation. -/
def isScopedFrom (count : Nat) : List (Operation Criterion) → Bool
  | [] => true
  | operation :: rest =>
    operation.operands.all (· < count) && isScopedFrom (count + 1) rest

/-- Every conjunction and disjunction is an operand at most once. -/
def IsSingleOwner (program : List (Operation Criterion)) : Prop :=
  ∀ number < program.length, (treeAt (treesOf program) number).isCompound = true →
    (uses program).count number ≤ 1

/-! ## Parts of programs -/

theorem run_append (earlier later : List (Operation Criterion)) :
    run (earlier ++ later) = later.foldl State.step (run earlier) :=
  List.foldl_append

theorem run_snoc (earlier : List (Operation Criterion)) (operation : Operation Criterion) :
    run (earlier ++ [operation]) = (run earlier).step operation :=
  run_append earlier [operation]

theorem treesOf_append (earlier later : List (Operation Criterion)) :
    treesOf (earlier ++ later) = later.foldl growNext (treesOf earlier) :=
  List.foldl_append

theorem treesOf_snoc (earlier : List (Operation Criterion)) (operation : Operation Criterion) :
    treesOf (earlier ++ [operation]) = growNext (treesOf earlier) operation :=
  treesOf_append earlier [operation]

theorem withoutSeals_append (earlier later : List (Operation Criterion)) :
    withoutSeals (earlier ++ later) = withoutSeals earlier ++ withoutSeals later :=
  List.filter_append ..

theorem uses_append (earlier later : List (Operation Criterion)) :
    uses (earlier ++ later) = uses earlier ++ uses later :=
  List.flatMap_append

theorem withoutSeals_snoc (earlier : List (Operation Criterion)) (operation : Operation Criterion)
    (composes : operation.isSeal = false) :
    withoutSeals (earlier ++ [operation]) = withoutSeals earlier ++ [operation] := by
  simp [withoutSeals, composes]

/-- To seal uses nothing. -/
theorem uses_withoutSeals (program : List (Operation Criterion)) :
    uses (withoutSeals program) = uses program := by
  induction program with
  | nil => rfl
  | cons operation rest ih =>
      cases operation <;>
        simp_all [uses, withoutSeals, Operation.isSeal, Operation.operands]

theorem length_treesOf (program : List (Operation Criterion)) :
    (treesOf program).length = program.length := by
  induction program using List.reverseRecOn with
  | nil => rfl
  | append_singleton earlier operation ih => simp [treesOf_snoc, growNext, ih]

theorem results_prefix (later : List (Operation Criterion)) (state : State Criterion) :
    ∃ added, (later.foldl State.step state).results = state.results ++ added := by
  induction later generalizing state with
  | nil => exact ⟨[], (List.append_nil _).symm⟩
  | cons operation rest ih =>
      obtain ⟨added, same⟩ := ih (state.step operation)
      rw [List.foldl_cons, same, State.step]
      cases operation.isSeal with
      | true => exact ⟨added, rfl⟩
      | false => exact ⟨_ :: added, List.append_assoc ..⟩

theorem trees_prefix (later : List (Operation Criterion)) (trees : List (Tree Criterion)) :
    ∃ added, later.foldl growNext trees = trees ++ added := by
  induction later generalizing trees with
  | nil => exact ⟨[], (List.append_nil _).symm⟩
  | cons operation rest ih =>
      obtain ⟨added, same⟩ := ih (growNext trees operation)
      exact ⟨_ :: added, by rw [List.foldl_cons, same, growNext, List.append_assoc]; rfl⟩

theorem length_results (program : List (Operation Criterion)) :
    (run program).results.length = (withoutSeals program).length := by
  induction program using List.reverseRecOn with
  | nil => rfl
  | append_singleton earlier operation ih =>
      rw [run_append, withoutSeals_append, List.length_append, ← ih]
      cases isSeal : operation.isSeal <;> simp [State.step, withoutSeals, isSeal]

/-- A result keeps its node for the rest of the program. -/
theorem node_of_append (earlier later : List (Operation Criterion)) (number : Nat)
    (bound : number < (withoutSeals earlier).length) :
    (run (earlier ++ later)).node number = (run earlier).node number := by
  obtain ⟨added, same⟩ := results_prefix later (run earlier)
  rw [State.node, run_append, same, List.getD_append]
  · rfl
  · rwa [length_results]

theorem treeAt_of_append (earlier later : List (Operation Criterion)) (number : Nat)
    (bound : number < earlier.length) :
    treeAt (treesOf (earlier ++ later)) number = treeAt (treesOf earlier) number := by
  obtain ⟨added, same⟩ := trees_prefix later (treesOf earlier)
  rw [treeAt, treesOf_append, same, List.getD_append]
  · rfl
  · rwa [length_treesOf]

theorem operands_in_scope (earlier later : List (Operation Criterion))
    (operation : Operation Criterion) (count : Nat)
    (inScope : isScopedFrom count (earlier ++ operation :: later) = true) :
    ∀ number ∈ operation.operands, number < count + earlier.length := by
  induction earlier generalizing count with
  | nil =>
      simp only [List.nil_append, isScopedFrom, Bool.and_eq_true, List.all_eq_true,
        decide_eq_true_eq] at inScope
      exact inScope.1
  | cons first rest ih =>
      simp only [List.cons_append, isScopedFrom, Bool.and_eq_true] at inScope
      intro number member
      have bound := ih (count + 1) inScope.2 number member
      simp only [List.length_cons]
      omega

theorem operand_used_once (earlier later : List (Operation Criterion))
    (operation : Operation Criterion)
    (singleOwner : IsSingleOwner (earlier ++ operation :: later)) (number : Nat)
    (bound : number < earlier.length)
    (isCompound : (treeAt (treesOf earlier) number).isCompound = true) :
    (uses earlier ++ operation.operands).count number ≤ 1 := by
  have once := singleOwner number
  rw [uses_append, treeAt_of_append _ _ number bound] at once
  have fewer : (uses earlier ++ operation.operands).count number ≤
      (uses earlier ++ uses (operation :: later)).count number := by
    apply List.Sublist.count_le
    exact (List.Sublist.refl _).append (List.sublist_append_left _ _)
  apply Nat.le_trans fewer
  exact once (Nat.lt_of_lt_of_le bound (by simp)) isCompound

end Construction

end Eligibility
