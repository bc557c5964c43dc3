/-!
# Blank characters

The twenty-five characters that are dropped from both ends of a text before it is read.
-/

set_option autoImplicit false

namespace Eligibility.Text

/-- White space and line ends, the byte order mark among them; the zero width space is not. -/
def isBlank (character : Char) : Bool :=
  let code := character.toNat
  (0x09 ≤ code && code ≤ 0x0D) || code = 0x20 || code = 0xA0 || code = 0x1680 ||
    (0x2000 ≤ code && code ≤ 0x200A) || code = 0x2028 || code = 0x2029 || code = 0x202F ||
    code = 0x205F || code = 0x3000 || code = 0xFEFF

def trim (characters : List Char) : List Char :=
  ((characters.dropWhile isBlank).reverse.dropWhile isBlank).reverse

end Eligibility.Text
