/-!
# Scaling by powers

Exponents are signed, but digits are natural numbers: a positive exponent raises one side of a
comparison or a quotient, and a negative one raises the other.
-/

set_option autoImplicit false

namespace Eligibility

/-- `number * base ^ exponent`, and `number` itself when the exponent is negative. -/
def raise (base number : Nat) (exponent : Int) : Nat :=
  number * Nat.pow base exponent.toNat

end Eligibility
