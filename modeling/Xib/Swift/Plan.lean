import Xib.Swift.Configuration
import Xib.Swift.Constraints
import Xib.Swift.Subviews

/-!
# Plans

A plan is all that a run writes, before names are filled in: three groups of lines, each line with
the object it belongs to, and the warnings. It is settled first which objects are skipped, last
discovered first; only then are lines planned, so that no line refers to a skipped object.
-/

namespace Xib.Swift

set_option autoImplicit false

structure Line where
  owner : Nat
  statement : Statement
  deriving Repr, DecidableEq

structure Plan where
  configuration : List Line
  subviews : List Line
  constraints : List Line
  warnings : List Warning
  deriving Repr, DecidableEq

def settle (scope : Scope) : List Nat → Scope × List Warning
  | [] => (scope, [])
  | index :: rest =>
      match scope.document.object? index with
      | none => settle scope rest
      | some object =>
          if scope.isExcluded index then settle scope rest
          else
            match configuration scope index object with
            | .ok _ => settle scope rest
            | .error reason =>
                let (settled, warnings) := settle (scope.exclude index) rest
                (settled, .skipped object.describe reason :: warnings)

def configurationYield (scope : Scope) (index : Nat) (object : Object) : Yield :=
  match configuration scope index object with
  | .ok statements => ⟨statements, []⟩
  | .error reason => ⟨[], [.skipped object.describe reason]⟩

def pass (scope : Scope) (yield : Nat → Object → Yield) : List Nat → List Line × List Warning
  | [] => ([], [])
  | index :: rest =>
      let (lines, warnings) := pass scope yield rest
      match scope.document.object? index with
      | none => (lines, warnings)
      | some object =>
          if scope.isExcluded index then (lines, warnings)
          else
            let own := yield index object
            (own.statements.map (Line.mk index) ++ lines, own.warnings ++ warnings)

/-- The scope of a run once it is settled what is skipped, and the warnings about that. -/
def settled (document : Document) (options : Options) : Scope × List Warning :=
  settle (.initial document options) document.generationOrder

namespace Plan

def ofScope (scope : Scope) (skips : List Warning) : Plan :=
  let order := scope.document.generationOrder
  let (configuration, failures) := pass scope (configurationYield scope) order
  let (subviews, wiring) := pass scope (Swift.subviews scope) order
  let (constraints, activations) := pass scope (Swift.constraints scope) order
  { configuration
    subviews
    constraints
    warnings := skips ++ failures ++ wiring ++ activations }

def ofDocument (document : Document) (options : Options) : Plan :=
  ofScope (settled document options).1 (settled document options).2

end Plan

end Xib.Swift
