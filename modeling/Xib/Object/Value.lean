import Xib.Number.Binary

/-!
# Values found in markup

Numbers stay the text they were written as; how a value is printed, and whether a missing part is
fatal, is decided where it is encoded.
-/

namespace Xib

set_option autoImplicit false

/-- Value of an attribute, sorted by what it looks like. -/
inductive Scalar where
  | flag (value : Bool)
  | number (literal : String)
  | text (content : String)
  deriving Repr, DecidableEq

namespace Scalar

def isNumeric (raw : String) : Bool :=
  match raw.toList with
  | [] => false
  | first :: _ =>
      (first.isDigit || first = '-' || first = '.') && (Number.readFinite? raw).isSome

def parse (raw : String) : Scalar :=
  if raw = "YES" then .flag true
  else if raw = "NO" then .flag false
  else if isNumeric raw then .number raw
  else .text raw

def raw : Scalar → String
  | .flag true => "YES"
  | .flag false => "NO"
  | .number literal => literal
  | .text content => content

def flag? : Scalar → Option Bool
  | .flag value => some value
  | _ => none

def number? : Scalar → Option String
  | .number literal => some literal
  | _ => none

theorem raw_parse (raw : String) : (parse raw).raw = raw := by
  unfold parse
  split
  · next same => exact same.symm
  · split
    · next same => exact same.symm
    · split <;> rfl

end Scalar

structure Color where
  red : Option String
  green : Option String
  blue : Option String
  white : Option String
  alpha : Option String
  colorSpace : Option String
  customColorSpace : Option String
  systemColor : Option String
  name : Option String
  deriving Repr, DecidableEq

structure Rect where
  x : Option String
  y : Option String
  width : Option String
  height : Option String
  deriving Repr, DecidableEq

structure Size where
  width : Option String
  height : Option String
  deriving Repr, DecidableEq

structure Point where
  x : Option String
  y : Option String
  deriving Repr, DecidableEq

/-- Distances from the edges of a box, named by the coordinates the edges bound. -/
structure Inset where
  minX : Option String
  minY : Option String
  maxX : Option String
  maxY : Option String
  deriving Repr, DecidableEq

structure Font where
  name : Option String
  family : Option String
  /-- One of the system fonts. -/
  type : Option String
  /-- A text style, which takes precedence over everything else. -/
  style : Option String
  pointSize : Option String
  deriving Repr, DecidableEq

end Xib
