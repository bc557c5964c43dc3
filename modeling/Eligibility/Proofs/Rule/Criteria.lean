import Eligibility.Graph.Answer
import Eligibility.Proofs.Rule.Answered

/-!
# Rules over the criteria of employees

Scripts are the only criteria whose answers depend on the calls before, and flags always answer.
Whether a rule is over such criteria is seen from its leaves.
-/

set_option autoImplicit false

namespace Eligibility

namespace Criterion

def isScript : Criterion → Bool
  | .scripted _ => true
  | .field _ | .salary _ | .tenure _ | .flagged _ | .unfinished => false

def isFlag : Criterion → Bool
  | .flagged _ => true
  | .field _ | .salary _ | .tenure _ | .unfinished | .scripted _ => false

variable (criterion : Criterion) (subject : Subject) (node : NodeId)

theorem answer_steady (noScript : criterion.isScript = false) :
    (criterion.answer subject node).IsSteady := by
  cases criterion with
  | scripted script => cases noScript
  | field | salary | tenure | flagged | unfinished => exact fun _ _ => rfl

theorem answer_flag (flag : criterion.isFlag = true) :
    ∃ verdict, ∀ history, (criterion.answer subject node).outcome history = .ok verdict := by
  cases criterion with
  | flagged key => exact ⟨subject.flag key, fun _ => rfl⟩
  | field | salary | tenure | unfinished | scripted => cases flag

end Criterion

namespace Rule

variable (rule : Rule NodeId Criterion) (subject : Subject)

theorem isSteadyUnder_of_no_script (noScript : rule.leaves.all (!·.2.isScript) = true) :
    rule.IsSteadyUnder (Criterion.answer subject) := fun leaf member =>
  leaf.2.answer_steady subject leaf.1 (by simpa using List.all_eq_true.mp noScript leaf member)

theorem isAnsweredUnder_of_flags (flags : rule.leaves.all (·.2.isFlag) = true) :
    rule.IsAnsweredUnder (Criterion.answer subject) := fun leaf member =>
  leaf.2.answer_flag subject leaf.1 (List.all_eq_true.mp flags leaf member)

end Rule

end Eligibility
