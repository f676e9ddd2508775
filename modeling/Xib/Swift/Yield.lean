import Xib.Diagnostic
import Xib.Swift.Statement

/-!
# What a step yields

A step that does not fail as a whole yields statements, and warnings for the pieces that could not
be written.
-/

namespace Xib.Swift

set_option autoImplicit false

structure Yield where
  statements : List Statement
  warnings : List Warning
  deriving Repr, DecidableEq

namespace Yield

def nothing : Yield := ⟨[], []⟩

def append (first second : Yield) : Yield where
  statements := first.statements ++ second.statements
  warnings := first.warnings ++ second.warnings

def concat {α : Type} (items : List α) (yield : α → Yield) : Yield :=
  items.foldr (fun item rest => (yield item).append rest) nothing

end Yield

end Xib.Swift
