import Eligibility.Workbench.Run

/-!
# Checks

A check makes one rule and asks it about every subject, first for its verdict and then for its
remainder.
-/

set_option autoImplicit false

namespace Eligibility

structure CheckEntry where
  verdict : Except Fault Bool
  remainder : Except Fault (Option Shown)

structure Check where
  text : String
  description : String
  entries : List CheckEntry

namespace Workbench

def checkOne (rule : Rule NodeId Criterion) (subject : Subject) :
    StateM Workbench CheckEntry := do
  let verdict ← (tryOnHistory (rule.judge (Criterion.answer subject))).run
  let remainder ← (tryOnHistory (rule.remainder (Criterion.answer subject))).run
  let bench ← get
  return ⟨verdict, remainder.map fun found => found.map bench.showRemainder⟩

def checkAll (rule : Rule NodeId Criterion) : List Subject → StateM Workbench (List CheckEntry)
  | [] => return []
  | subject :: rest => do
    let first ← checkOne rule subject
    let others ← checkAll rule rest
    return first :: others

def check (expression : Expression) (subjects : List Subject) : Trial Workbench Check := do
  let rule ← makeRule expression
  let entries ← ExceptT.lift (checkAll rule subjects)
  return ⟨rule.toText Criterion.text, rule.describe Criterion.text, entries⟩

end Workbench

end Eligibility
