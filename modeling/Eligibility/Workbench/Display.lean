import Eligibility.Workbench.Step

/-!
# Showing rules

A rule is shown with the first name that its node was given, which tells it from an equal one.
-/

set_option autoImplicit false

namespace Eligibility

namespace Workbench

def nameOf? (bench : Workbench) (node : NodeId) : Option String :=
  (bench.registers.find? (·.2 = node)).map (·.1)

def showRule (bench : Workbench) (rule : Rule NodeId Criterion) : Shown where
  register := bench.nameOf? rule.label
  className := rule.className Criterion.className
  text := rule.toText Criterion.text

/-- Shows a remainder; a narrowed one has no name yet. -/
def showRemainder (bench : Workbench) : Rule.Remainder NodeId Criterion → Shown
  | .existing rule => bench.showRule rule
  | .narrowed clauses =>
    { register := none
      className := Connective.conjunction.className
      text := (Rule.Remainder.narrowed clauses).toText Criterion.text }

def showReport (bench : Workbench) (report : Report NodeId Criterion) : ShownReport where
  satisfied := report.satisfied
  remainder := report.remainder.map bench.showRemainder
  failures := report.failures.map fun failure =>
    { bench.showRule failure.rule with text := failure.reason }
  fault := report.fault

end Workbench

end Eligibility
