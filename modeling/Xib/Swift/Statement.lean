import Xib.Number.Digits
import Xib.Swift.Scope

/-!
# Statements

Statements refer to objects by position and to the outside by targets; names enter only when a
statement is written out. So what a statement refers to can be read off it.
-/

namespace Xib.Swift

set_option autoImplicit false

structure Anchor where
  path : String
  /-- Width and height; all other anchors are positions. -/
  dimension : Bool
  deriving Repr, DecidableEq

inductive Bound where
  /-- A constant alone. -/
  | fixed (value : String)
  /-- Another anchor, scaled and shifted. -/
  | relative (target : Target) (anchor : Anchor) (multiplier : Option Number.Binary)
      (constant : Option String)
  deriving Repr, DecidableEq

inductive Expression where
  | literal (code : String)
  | reference (target : Target)
  deriving Repr, DecidableEq

inductive Statement where
  /-- Declares the variable of an object. -/
  | declare (object : Nat) (className : String) (arguments : String)
  | assign (object : Nat) (property : String) (value : Expression)
  /-- A method call whose arguments name no object. -/
  | call (object : Nat) (method : String) (arguments : String)
  /-- A method call with one target as its argument. -/
  | add (object : Nat) (method : String) (argument : Target)
  | activate (target : Target) (anchor : Anchor) (relation : Relation) (bound : Bound)
  deriving Repr, DecidableEq

def relationLabel : Relation → String
  | .equal => "equalTo"
  | .greaterThanOrEqual => "greaterThanOrEqualTo"
  | .lessThanOrEqual => "lessThanOrEqualTo"

def Bound.arguments (scope : Scope) (relation : Relation) : Bound → List String
  | .fixed value => [relationLabel relation ++ "Constant: " ++ value]
  | .relative target anchor multiplier constant =>
      [relationLabel relation ++ ": " ++ scope.express target ++ "." ++ anchor.path] ++
        (multiplier.map fun value =>
          "multiplier: " ++ Number.Layout.plain.write value).toList ++
        (constant.map fun value => "constant: " ++ value).toList

def Expression.write (scope : Scope) : Expression → String
  | .literal code => code
  | .reference target => scope.express target

namespace Statement

def write (scope : Scope) : Statement → String
  | .declare object className arguments =>
      "let " ++ scope.nameOf object ++ " = " ++ className ++ "(" ++ arguments ++ ")"
  | .assign object property value =>
      scope.nameOf object ++ "." ++ property ++ " = " ++ value.write scope
  | .call object method arguments =>
      scope.nameOf object ++ "." ++ method ++ "(" ++ arguments ++ ")"
  | .add object method argument =>
      scope.nameOf object ++ "." ++ method ++ "(" ++ scope.express argument ++ ")"
  | .activate target anchor relation bound =>
      scope.express target ++ "." ++ anchor.path ++ ".constraint(" ++
        ", ".intercalate (bound.arguments scope relation) ++ ").isActive = true"

/-- The targets that a statement names, its own object apart. -/
def targets : Statement → List Target
  | .declare .. | .call .. => []
  | .assign _ _ (.literal _) => []
  | .assign _ _ (.reference target) => [target]
  | .add _ _ argument => [argument]
  | .activate target _ _ (.fixed _) => [target]
  | .activate target _ _ (.relative second _ _ _) => [target, second]

def receiver? : Statement → Option Nat
  | .declare object _ _ | .assign object _ _ | .call object _ _ | .add object _ _ => some object
  | .activate .. => none

end Statement

end Xib.Swift
