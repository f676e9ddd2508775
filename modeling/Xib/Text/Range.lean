/-!
# Tables of code points

A class of characters is an ascending list of inclusive ranges of code points. The search stops at
the first range beyond the code point, so plain text touches only the head of a table.
-/

namespace Xib.Text

set_option autoImplicit false

/-- Membership in an ascending table of inclusive ranges. -/
def within (code : Nat) : List (Nat × Nat) → Bool
  | [] => false
  | (first, last) :: rest => first ≤ code && (code ≤ last || within code rest)

end Xib.Text
