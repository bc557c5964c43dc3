import Eligibility.Criterion.Basic
import Eligibility.Graph.Basic

/-!
# Answers of criteria in a graph

The only state that answers depend on is the history of calls of scripts.
-/

set_option autoImplicit false

namespace Eligibility

/-- One call of a script, by the node it belongs to and by name. -/
structure ScriptCall where
  node : NodeId
  name : String
  deriving DecidableEq

/-- The calls of scripts, the latest first. -/
abbrev CallHistory := List ScriptCall

namespace CallHistory

def countOf (history : CallHistory) (node : NodeId) : Nat :=
  history.countP (·.node = node)

def namesSince (history earlier : CallHistory) : List String :=
  ((history.take (history.length - earlier.length)).map (·.name)).reverse

end CallHistory

namespace Criterion

/-- The answer of a criterion at a node about a subject; a script puts its call on record. -/
def answer (subject : Subject) (node : NodeId) (criterion : Criterion) :
    Trial CallHistory Bool := fun history =>
  match criterion with
  | .scripted script =>
    (criterion.judge subject (CallHistory.countOf history node), ⟨node, script.name⟩ :: history)
  | _ => (criterion.judge subject 0, history)

end Criterion

end Eligibility
