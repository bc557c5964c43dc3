import Eligibility.Graph.Builder
import Mathlib.Logic.Relation

/-!
# Changes of a graph

A graph changes in three ways only: a node is added, an open connective gets further children, and
a rule is sealed.  Whatever operations, builders and remainders do to it is a sequence of these.
-/

set_option autoImplicit false

namespace Eligibility

namespace Graph

variable {Criterion : Type}

inductive Change (graph : Graph Criterion) : Graph Criterion → Prop
  | allocate (shape : Shape Criterion) : Change graph (graph.allocate shape).2
  | extend (connective : Connective) (id : NodeId) (children added : List NodeId)
      (isOpen : graph.node? id = some ⟨.compound connective children, false⟩) :
      Change graph (graph.replaceChildren connective id (children ++ added))
  | sealRule (id : NodeId) : Change graph (graph.sealRule id)

abbrev Evolves : Graph Criterion → Graph Criterion → Prop :=
  Relation.ReflTransGen Change

theorem allocate_evolves (graph : Graph Criterion) (shape : Shape Criterion) :
    graph.Evolves (graph.allocate shape).2 :=
  .single (.allocate shape)

theorem join_evolves (graph : Graph Criterion) (connective : Connective)
    (receiver other : NodeId) : graph.Evolves (graph.join connective receiver other).2 := by
  unfold join
  split
  next kind children isSealed found =>
    by_cases sameKind : kind = connective
    · subst sameKind
      cases isSealed with
      | true =>
          simp only [reduceIte]
          exact allocate_evolves graph _
      | false =>
          simp only [reduceIte]
          exact .single
            (.extend kind receiver children (graph.clauses kind other) found)
    · rw [if_neg sameKind]
      exact allocate_evolves graph _
  next => exact allocate_evolves graph _

theorem joinAll_evolves (graph : Graph Criterion) (connective : Connective)
    (ids : List NodeId) : graph.Evolves (graph.joinAll connective ids).2 := by
  cases ids with
  | nil => exact allocate_evolves graph _
  | cons first rest =>
      have foldEvolves : ∀ reached : NodeId × Graph Criterion, reached.2.Evolves
          (rest.foldl (fun made next => made.2.join connective made.1 next) reached).2 := by
        induction rest with
        | nil => exact fun reached => .refl
        | cons next others ih =>
            intro reached
            exact (join_evolves reached.2 connective reached.1 next).trans (ih _)
      exact foldEvolves (first, graph)

theorem perform_evolves (graph : Graph Criterion) (operation : Operation Criterion) :
    graph.Evolves (graph.perform operation).2 := by
  cases operation with
  | create shape => exact allocate_evolves graph shape
  | join connective receiver other => exact join_evolves graph connective receiver other
  | joinAll connective ids => exact joinAll_evolves graph connective ids
  | exclude left right => exact allocate_evolves graph _
  | negate operand => exact allocate_evolves graph _
  | sealRule id => exact .single (.sealRule id)

theorem place_evolves (graph : Graph Criterion) (remainder : Rule.Remainder NodeId Criterion) :
    graph.Evolves (graph.place remainder).2 := by
  cases remainder with
  | existing rule => exact .refl
  | narrowed clauses => exact allocate_evolves graph _

end Graph

namespace Builder

variable {Criterion : Type}

theorem extend_evolves (builder : Builder) (graph : Graph Criterion)
    (operation : NodeId → Graph.Operation Criterion) (changed : Builder)
    (later : Graph Criterion)
    (extended : builder.extend graph operation = .ok (changed, later)) :
    graph.Evolves later := by
  rw [extend] at extended
  cases opened : builder.openRoot with
  | error fault =>
      rw [opened] at extended
      cases extended
  | ok root =>
      rw [opened] at extended
      cases extended
      exact Graph.perform_evolves graph (operation root)

theorem build_evolves (builder : Builder) (graph : Graph Criterion) (changed : Builder)
    (later : Graph Criterion) (built : builder.build graph = .ok (changed, later)) :
    graph.Evolves later := by
  rw [build] at built
  cases opened : builder.openRoot with
  | error fault =>
      rw [opened] at built
      cases built
  | ok root =>
      rw [opened] at built
      cases built
      exact .single (.sealRule root)

theorem perform_evolves (builder : Builder) (graph : Graph Criterion) (call : Call)
    (changed : Builder) (later : Graph Criterion)
    (performed : builder.perform graph call = .ok (changed, later)) : graph.Evolves later := by
  cases call with
  | start rule =>
      rw [perform] at performed
      cases started : builder.start rule with
      | error fault =>
          rw [started] at performed
          cases performed
      | ok opened =>
          rw [started] at performed
          cases performed
          exact .refl
  | join connective rule => exact extend_evolves builder graph _ changed later performed
  | exclude rule => exact extend_evolves builder graph _ changed later performed
  | negate => exact extend_evolves builder graph _ changed later performed
  | build => exact build_evolves builder graph changed later performed

end Builder

end Eligibility
