import Xib.Document.Build
import Xib.Swift.Plan

/-!
# Code

Code is a plan written out: every line is one statement behind the indentation of the run. The
source text puts a blank line between the groups that are not empty.
-/

namespace Xib.Swift

set_option autoImplicit false

structure Code where
  configuration : List String
  subviews : List String
  constraints : List String
  warnings : List Warning
  deriving Repr, DecidableEq

namespace Code

def indented (indent statement : String) : String :=
  indent ++ statement

def ofPlan (indent : String) (scope : Scope) (plan : Plan) : Code :=
  let write (line : Line) := indented indent (line.statement.write scope)
  { configuration := plan.configuration.map write
    subviews := plan.subviews.map write
    constraints := plan.constraints.map write
    warnings := plan.warnings }

def ofDocument (document : Document) (options : Options) : Code :=
  let (scope, skips) := settled document options
  ofPlan options.indent scope (.ofScope scope skips)

def lines (code : Code) : List String :=
  code.configuration ++ code.subviews ++ code.constraints

def size (code : Code) : Nat :=
  code.lines.length

def source (code : Code) : String :=
  let groups := [code.configuration, code.subviews, code.constraints].filter (· ≠ [])
  "\n\n".intercalate (groups.map ("\n".intercalate ·))

def ofText (source : String) : Except BuildError Code :=
  (Document.ofText .cocoaTouch source).map fun document => ofDocument document .standard

end Code

end Xib.Swift
