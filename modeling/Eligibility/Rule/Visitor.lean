import Eligibility.Rule.Basic

/-!
# Visitors

A visitor says what to make of each kind of node from what was made of the parts.  The description
of a rule is one visitor: a connective with several clauses and an exclusive disjunction are put
into parentheses where they are parts, except under a negation, which brings its own.
-/

set_option autoImplicit false

namespace Eligibility

/-- What to make of each kind of node. -/
structure Visitor (Label Criterion Result : Type) where
  leaf : Label → Criterion → Result
  constant : Bool → Result
  compound : Connective → List Result → Result
  exclusive : Result → Result → Result
  negation : Result → Result

namespace Rule

variable {Label Criterion Result : Type}

mutual

def accept (visitor : Visitor Label Criterion Result) : Rule Label Criterion → Result
  | .leaf label criterion => visitor.leaf label criterion
  | .constant _ verdict => visitor.constant verdict
  | .compound _ connective children => visitor.compound connective (acceptAll visitor children)
  | .exclusive _ left right => visitor.exclusive (left.accept visitor) (right.accept visitor)
  | .negation _ operand => visitor.negation (operand.accept visitor)

def acceptAll (visitor : Visitor Label Criterion Result) :
    List (Rule Label Criterion) → List Result
  | [] => []
  | child :: rest => child.accept visitor :: acceptAll visitor rest

end

/-- Counts the leaves; constants are none. -/
def leafCounter : Visitor Label Criterion Nat where
  leaf _ _ := 1
  constant _ := 0
  compound _ counts := counts.foldr (· + ·) 0
  exclusive left right := left + right
  negation count := count

end Rule

/-! ## Descriptions -/

/-- A text, and whether it needs parentheses as a part. -/
structure Rendered where
  text : String
  compound : Bool

namespace Rendered

def grouped (rendered : Rendered) : String :=
  if rendered.compound then "(" ++ rendered.text ++ ")" else rendered.text

end Rendered

namespace Rule

variable {Label Criterion : Type}

def describer (leafText : Criterion → String) : Visitor Label Criterion Rendered where
  leaf _ criterion := ⟨leafText criterion, false⟩
  constant verdict := ⟨if verdict then "True" else "False", false⟩
  compound connective parts :=
    ⟨String.intercalate connective.separator (parts.map Rendered.grouped), 1 < parts.length⟩
  exclusive left right := ⟨left.grouped ++ " Xor " ++ right.grouped, true⟩
  negation operand := ⟨"Not(" ++ operand.text ++ ")", false⟩

def describe (leafText : Criterion → String) (rule : Rule Label Criterion) : String :=
  (rule.accept (describer leafText)).text

def constantName (verdict : Bool) : String :=
  if verdict then "TrueSpecification" else "FalseSpecification"

/-- The text of a rule: its description, but the name for a constant. -/
def toText (leafText : Criterion → String) (rule : Rule Label Criterion) : String :=
  match rule with
  | .constant _ verdict => constantName verdict ++ "()"
  | rule => rule.describe leafText

def className (leafName : Criterion → String) : Rule Label Criterion → String
  | .leaf _ criterion => leafName criterion
  | .constant _ verdict => constantName verdict
  | .compound _ connective _ => connective.className
  | .exclusive .. => "XorSpecification"
  | .negation .. => "NotSpecification"

end Rule

end Eligibility
