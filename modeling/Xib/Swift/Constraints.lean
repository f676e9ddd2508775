import Xib.Swift.Encode
import Xib.Swift.Yield

/-!
# Constraints

A constraint relates an anchor to another anchor or, for a dimension, to a constant. Each one is
written, becomes a warning, or is left out because one of its items has no declaration, whatever
becomes of the others.
-/

namespace Xib.Swift

set_option autoImplicit false

def positionNames : List String :=
  ["leading", "trailing", "left", "right", "top", "bottom", "centerX", "centerY",
    "firstBaseline", "lastBaseline"]

def marginEdges : List String :=
  ["leading", "trailing", "left", "right", "top", "bottom"]

def Anchor.ofName? (name : String) : Option Anchor :=
  if name = "width" || name = "height" then some ⟨name ++ "Anchor", true⟩
  else if positionNames.contains name then some ⟨name ++ "Anchor", false⟩
  else if name = "baseline" then some ⟨"lastBaselineAnchor", false⟩
  else if name = "centerXWithinMargins" then some ⟨"layoutMarginsGuide.centerXAnchor", false⟩
  else if name = "centerYWithinMargins" then some ⟨"layoutMarginsGuide.centerYAnchor", false⟩
  else
    (marginEdges.find? fun edge => edge ++ "Margin" = name).map fun edge =>
      ⟨"layoutMarginsGuide." ++ edge ++ "Anchor", false⟩

def anchor (field name : String) : Except GenerationError Anchor :=
  match Anchor.ofName? name with
  | some anchor => .ok anchor
  | none => .error (.invalidValue field name)

/-- The multiplier of a constraint between anchors, unless it is absent or one. Only dimensions
can be multiplied. -/
def multiplierArgument (first : Anchor) (raw : Option String) :
    Except GenerationError (Option Number.Binary) :=
  match raw with
  | none => .ok none
  | some raw => do
      let value ← multiplier raw
      if value.isOne then return none
      else if first.dimension then return some value
      else .error (.invalidValue "multiplier" raw)

def firstTarget (scope : Scope) (index : Nat) (constraint : Constraint) :
    Except GenerationError (Option Target) :=
  match constraint.firstItem with
  | none => .ok (some (.object index))
  | some identifier => scope.reference identifier

/-- What an anchor is constrained to, or nothing if the second item has no declaration. Without a
second item only dimensions can be constrained. -/
def bound? (scope : Scope) (constraint : Constraint) (name : String) (first : Anchor) :
    Except GenerationError (Option Bound) :=
  match constraint.secondItem with
  | none =>
      if first.dimension then .ok (some (.fixed (constraint.constant.getD "0")))
      else .error (.missingAttribute "constraint" "secondItem")
  | some identifier => do
      match ← scope.reference identifier with
      | none => return none
      | some second =>
          let secondAnchor ← anchor "secondAttribute"
            (constraint.secondAttribute.getD name)
          let multiplier ← multiplierArgument first constraint.multiplier
          let constant := constraint.constant.filter fun constant => !isZero constant
          return some (.relative second secondAnchor multiplier constant)

def activation (scope : Scope) (index : Nat) (constraint : Constraint) :
    Except GenerationError (Option Statement) := do
  match ← firstTarget scope index constraint with
  | none => return none
  | some target =>
      let name ← required "constraint" "firstAttribute" constraint.firstAttribute
      let first ← anchor "firstAttribute" name
      let bound ← bound? scope constraint name first
      return bound.map fun bound => .activate target first constraint.relation bound

def constraintLabel (object : Object) (constraint : Constraint) : String :=
  let name := constraint.identifier.getD "<unnamed>"
  s!"constraint {name} on {object.describe}"

/-- A priority other than the highest has no generated form. -/
def priorityWarnings (label : String) (constraint : Constraint) : List Warning :=
  match constraint.priority with
  | none => []
  | some priority =>
      if priority = "1000" then [] else [.unsupported label s!"priority {priority}"]

def constraintYield (scope : Scope) (index : Nat) (object : Object) (constraint : Constraint) :
    Yield :=
  let label := constraintLabel object constraint
  let outcome : Yield :=
    match activation scope index constraint with
    | .ok statement => ⟨statement.toList, []⟩
    | .error reason => ⟨[], [.skipped label reason]⟩
  Yield.append ⟨[], priorityWarnings label constraint⟩ outcome

def constraints (scope : Scope) (index : Nat) (object : Object) : Yield :=
  .concat object.constraints (constraintYield scope index object)

end Xib.Swift
