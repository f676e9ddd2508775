/-!
# White space

`isSpace` is the White_Space property, which decides what is trimmed from numbers and which text
between elements is mere indentation. Markup itself knows only four blanks; those belong to the
reader of markup.
-/

namespace Xib.Text

set_option autoImplicit false

/-- The White_Space property. -/
def isSpace (character : Char) : Bool :=
  let code := character.toNat
  (9 ≤ code && code ≤ 13) || code = 0x20 || code = 0x85 || code = 0xA0 || code = 0x1680 ||
    (0x2000 ≤ code && code ≤ 0x200A) || code = 0x2028 || code = 0x2029 || code = 0x202F ||
    code = 0x205F || code = 0x3000

def dropTrailing (drop : Char → Bool) (text : List Char) : List Char :=
  (text.reverse.dropWhile drop).reverse

def trim (text : String) : String :=
  String.ofList (dropTrailing isSpace (text.toList.dropWhile isSpace))

def isBlank (text : String) : Bool :=
  text.toList.all isSpace

end Xib.Text
