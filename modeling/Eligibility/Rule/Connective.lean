/-!
# Connectives

Conjunction and disjunction differ in the verdict that leaves the question open: it is the verdict
of no clauses at all, and the one after which the next clause is asked.
-/

set_option autoImplicit false

namespace Eligibility

inductive Connective where
  | conjunction
  | disjunction
  deriving DecidableEq

namespace Connective

/-- The verdict of a clause that does not settle the whole. -/
def neutral : Connective → Bool
  | .conjunction => true
  | .disjunction => false

def className : Connective → String
  | .conjunction => "AndSpecification"
  | .disjunction => "OrSpecification"

def separator : Connective → String
  | .conjunction => " And "
  | .disjunction => " Or "

end Connective

end Eligibility
