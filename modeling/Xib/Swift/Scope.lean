import Xib.Swift.Name

/-!
# Scopes

A scope knows the name of every object and which objects have no declaration: those of kinds that
produce no code, and those skipped because no code could be written for them. Markup identifiers
are resolved to targets; a target without a declaration must not be referred to.
-/

namespace Xib.Swift

set_option autoImplicit false

inductive Target where
  | owner
  | object (index : Nat)
  /-- A layout guide, under the key it has on the object that owns it. -/
  | guide (index : Nat) (key : String)
  | firstResponder
  deriving Repr, DecidableEq

def Target.object? : Target → Option Nat
  | .object index | .guide index _ => some index
  | .owner | .firstResponder => none

def guideProperty (key : String) : String :=
  match key with
  | "layoutMargins" => "layoutMarginsGuide"
  | "readableContent" => "readableContentGuide"
  | other => other ++ "LayoutGuide"

structure Scope where
  document : Document
  ownerName : String
  /-- Names by position. -/
  names : List String
  /-- Positions of objects skipped so far. -/
  skipped : List Nat

namespace Scope

def initial (document : Document) (options : Options) : Scope where
  document
  ownerName := options.ownerName
  names := Swift.names document options.ownerName
  skipped := []

def nameOf (scope : Scope) (index : Nat) : String :=
  scope.names[index]?.getD ""

/-- Whether an object has no declaration. A position beyond the document has none. -/
def isExcluded (scope : Scope) (index : Nat) : Bool :=
  scope.skipped.contains index ||
    match scope.document.object? index with
    | some object => !object.kind.isGenerated
    | none => true

def exclude (scope : Scope) (index : Nat) : Scope :=
  { scope with skipped := index :: scope.skipped }

def express (scope : Scope) : Target → String
  | .owner => scope.ownerName
  | .object index => scope.nameOf index
  | .guide index key => scope.nameOf index ++ "." ++ guideProperty key
  | .firstResponder => firstResponderName

/-- What an identifier stands for. The owner needs no object of its own; the first responder is
the last resort for its identifier. -/
def resolve (scope : Scope) (identifier : String) : Except GenerationError Target :=
  if identifier = ownerIdentifier then .ok .owner
  else
    match scope.document.find? identifier, scope.document.guide? identifier with
    | some index, _ => .ok (.object index)
    | none, some guide => .ok (.guide guide.owner guide.key)
    | none, none =>
        if identifier = firstResponderIdentifier then .ok .firstResponder
        else .error (.danglingReference identifier)

def reference (scope : Scope) (identifier : String) : Except GenerationError (Option Target) :=
  if identifier = ownerIdentifier then (scope.resolve identifier).map some
  else if identifier = firstResponderIdentifier && (scope.document.find? identifier).isNone then
    .ok none
  else
    let index := (scope.document.find? identifier).or
      ((scope.document.guide? identifier).map Guide.owner)
    if (index.map scope.isExcluded).getD false then .ok none
    else (scope.resolve identifier).map some

end Scope

end Xib.Swift
