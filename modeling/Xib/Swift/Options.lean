/-!
# Options of a generation run
-/

namespace Xib.Swift

set_option autoImplicit false

structure Options where
  /-- Levels of indentation in front of every statement. -/
  indentation : Nat
  /-- Blanks of one level. -/
  indentWidth : Nat
  /-- What the owner of the hierarchy is called in code. -/
  ownerName : String
  deriving Repr, DecidableEq

namespace Options

def standard : Options := ⟨0, 4, "fileOwner"⟩

def indent (options : Options) : String :=
  String.ofList (List.replicate (options.indentation * options.indentWidth) ' ')

end Options

end Xib.Swift
