import Xib.Object.Kind
import Xib.Object.Value
import Xib.Table

/-!
# Interface objects

An object is what becomes a variable. It has attributes, subviews, values that become property
assignments, connections to other objects, and layout constraints. Objects refer to each other by
their position in the document, or by markup identifiers that may lead nowhere.
-/

namespace Xib

set_option autoImplicit false

def ownerIdentifier : String := "-1"

def firstResponderIdentifier : String := "-2"

inductive ControlState where
  | normal
  | selected
  | highlighted
  | disabled
  deriving Repr, DecidableEq

namespace ControlState

def name : ControlState → String
  | .normal => "normal"
  | .selected => "selected"
  | .highlighted => "highlighted"
  | .disabled => "disabled"

def ofName? (name : String) : Option ControlState :=
  [normal, selected, highlighted, disabled].find? fun state => state.name = name

end ControlState

structure ButtonState where
  state : ControlState
  title : Option String
  image : Option String
  backgroundImage : Option String
  titleColor : Option Color
  titleShadowColor : Option Color
  deriving Repr, DecidableEq

inductive RuntimeValue where
  | number (literal : String)
  | flag (value : Bool)
  | string (text : String)
  | localizedString (text : String)
  | image (name : String)
  | color (color : Color)
  | size (size : Size)
  | point (point : Point)
  | rect (rect : Rect)
  | nil
  /-- The type of the attribute, when its value could not be read. -/
  | missing (type : String)
  deriving Repr, DecidableEq

structure RuntimeAttribute where
  keyPath : Option String
  value : RuntimeValue
  deriving Repr, DecidableEq

inductive ConnectionKind where
  | outlet
  | action
  | outletCollection
  deriving Repr, DecidableEq

structure Connection where
  kind : ConnectionKind
  /-- Property of an outlet, selector of an action. -/
  name : Option String
  destination : Option String
  identifier : Option String
  /-- Event that triggers an action. -/
  eventType : Option String
  deriving Repr, DecidableEq

inductive Relation where
  | equal
  | greaterThanOrEqual
  | lessThanOrEqual
  deriving Repr, DecidableEq

def Relation.ofName? (name : String) : Option Relation :=
  if name = "equal" then some .equal
  else if name = "greaterThanOrEqual" then some .greaterThanOrEqual
  else if name = "lessThanOrEqual" then some .lessThanOrEqual
  else none

structure Constraint where
  identifier : Option String
  /-- Without one, the object that owns the constraint. -/
  firstItem : Option String
  firstAttribute : Option String
  relation : Relation
  secondItem : Option String
  secondAttribute : Option String
  multiplier : Option String
  constant : Option String
  priority : Option String
  deriving Repr, DecidableEq

inductive Auxiliary where
  | color (key : String) (color : Color)
  | rect (key : String) (rect : Rect)
  | size (key : String) (size : Size)
  | point (key : String) (point : Point)
  | inset (key : String) (inset : Inset)
  | font (key : String) (font : Font)
  | text (key : String) (text : String)
  /-- The flags that are set, in markup order. -/
  | autoresizing (key : String) (flags : List String)
  /-- Traits assigned on the object itself. -/
  | inputTraits (traits : Table Scalar)
  /-- A guide that constraints refer to by its identifier. -/
  | guide (key : String) (identifier : Option String)
  /-- Another object as the value of a property. -/
  | embedded (key : String) (object : Nat)
  | runtime (assignment : RuntimeAttribute)
  | state (state : ButtonState)
  | connection (connection : Connection)
  /-- Markup without a generated form. -/
  | unsupported (tag : String) (key : Option String)

def Auxiliary.isFrame : Auxiliary → Bool
  | .rect key _ => key = "frame"
  | _ => false

structure Object where
  /-- Position among the objects of its document. -/
  index : Nat
  /-- Name of the element the object was built from. -/
  tag : String
  kind : Kind
  identifier : Option String
  userLabel : Option String
  customClass : Option String
  customModule : Option String
  /-- Property of the parent that an embedded object is the value of. -/
  key : Option String
  parent : Option Nat
  attributes : Table Scalar
  /-- Positions of the subviews, in markup order. -/
  children : List Nat
  auxiliaries : List Auxiliary
  constraints : List Constraint

namespace Object

/-- An object with nothing but a tag, as the first one of a document. -/
def bare (tag : String) (kind : Kind) : Object where
  index := 0
  tag
  kind
  identifier := none
  userLabel := none
  customClass := none
  customModule := none
  key := none
  parent := none
  attributes := .empty
  children := []
  auxiliaries := []
  constraints := []

def className (object : Object) : String :=
  object.customClass.getD object.kind.className

def attribute? (object : Object) (name : String) : Option Scalar :=
  object.attributes.get? name

def connections (object : Object) : List Connection :=
  object.auxiliaries.filterMap fun
    | .connection connection => some connection
    | _ => none

def states (object : Object) : List ButtonState :=
  object.auxiliaries.filterMap fun
    | .state state => some state
    | _ => none

def describe (object : Object) : String :=
  match object.userLabel, object.identifier with
  | some label, _ => s!"<{object.tag}> '{label}'"
  | none, some identifier => s!"<{object.tag}> {identifier}"
  | none, none => s!"<{object.tag}>"

end Object

end Xib
