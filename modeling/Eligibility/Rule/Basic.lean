import Eligibility.Fault

/-!
# Rules

A rule is a tree of clauses over criteria.  Its nodes carry labels, so that a part can be named
that an answer is about.  Criteria answer in a state and may fail; a rule asks them from left to
right and stops as soon as its verdict is settled.
-/

set_option autoImplicit false

namespace Eligibility

/-- A rule whose nodes are labelled and whose leaves are criteria. -/
inductive Rule (Label Criterion : Type) where
  | leaf (label : Label) (criterion : Criterion)
  | constant (label : Label) (verdict : Bool)
  | compound (label : Label) (connective : Connective) (children : List (Rule Label Criterion))
  | exclusive (label : Label) (left right : Rule Label Criterion)
  | negation (label : Label) (operand : Rule Label Criterion)

/-- A computation that may fail and keeps its state when it does. -/
abbrev Trial (State : Type) := ExceptT Fault (StateM State)

namespace Rule

variable {Label Criterion State : Type}

def label : Rule Label Criterion → Label
  | .leaf label _ | .constant label _ | .compound label _ _ | .exclusive label _ _
  | .negation label _ => label

mutual

def labels : Rule Label Criterion → List Label
  | .leaf label _ | .constant label _ => [label]
  | .compound label _ children => label :: childLabels children
  | .exclusive label left right => label :: (left.labels ++ right.labels)
  | .negation label operand => label :: operand.labels

def childLabels : List (Rule Label Criterion) → List Label
  | [] => []
  | child :: rest => child.labels ++ childLabels rest

end

/-! ## Verdicts -/

mutual

/-- The verdict of a rule.  A connective without clauses is a fault. -/
def judge (answer : Label → Criterion → Trial State Bool) :
    Rule Label Criterion → Trial State Bool
  | .leaf label criterion => answer label criterion
  | .constant _ verdict => pure verdict
  | .compound _ connective children =>
    match children with
    | [] => throw (.composition (.childless connective))
    | child :: rest => judgeAll answer connective (child :: rest)
  | .exclusive _ left right => do
    let first ← judge answer left
    let second ← judge answer right
    return first != second
  | .negation _ operand => do
    let verdict ← judge answer operand
    return !verdict

/-- The verdict of clauses, up to the first one that settles it. -/
def judgeAll (answer : Label → Criterion → Trial State Bool) (connective : Connective) :
    List (Rule Label Criterion) → Trial State Bool
  | [] => pure connective.neutral
  | child :: rest => do
    let verdict ← judge answer child
    if verdict = connective.neutral then
      judgeAll answer connective rest
    else
      return verdict

end

/-! ## Remainders -/

inductive Remainder (Label Criterion : Type) where
  /-- A rule that was there before. -/
  | existing (rule : Rule Label Criterion)
  /-- A new conjunction of rules that were there before. -/
  | narrowed (clauses : List (Rule Label Criterion))

/-- The clauses that are not satisfied, every one of them asked. -/
def unsatisfied (answer : Label → Criterion → Trial State Bool) :
    List (Rule Label Criterion) → Trial State (List (Rule Label Criterion))
  | [] => pure []
  | child :: rest => do
    let verdict ← child.judge answer
    let others ← unsatisfied answer rest
    return if verdict then others else child :: others

def wholeRemainder (answer : Label → Criterion → Trial State Bool)
    (rule : Rule Label Criterion) : Trial State (Option (Remainder Label Criterion)) := do
  let verdict ← rule.judge answer
  return if verdict then none else some (.existing rule)

/-- Narrows a conjunction down to its unsatisfied clauses: nothing, the only one, the conjunction
itself when none is satisfied, or a new conjunction of them. -/
def narrow (rule : Rule Label Criterion) (children unsatisfied : List (Rule Label Criterion)) :
    Option (Remainder Label Criterion) :=
  match unsatisfied with
  | [] => none
  | [only] => some (.existing only)
  | several =>
    if several.length = children.length then
      some (.existing rule)
    else
      some (.narrowed several)

/-- What is left of a rule that is not satisfied; only a conjunction is narrowed. -/
def remainder (answer : Label → Criterion → Trial State Bool) (rule : Rule Label Criterion) :
    Trial State (Option (Remainder Label Criterion)) :=
  match rule with
  | .compound _ .conjunction children =>
    match children with
    | [] => throw (.composition (.childless .conjunction))
    | child :: rest => do
      let failing ← unsatisfied answer (child :: rest)
      return rule.narrow children failing
  | _ => rule.wholeRemainder answer

end Rule

end Eligibility
