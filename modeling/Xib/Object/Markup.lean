import Xib.Object
import Xib.Xml.Element

/-!
# What elements say about an object

Reads the values, connections and constraints that elements describe. Nothing here fails: a missing
part stays missing.
-/

namespace Xib

set_option autoImplicit false

open Xml (Element)

def Color.ofElement (element : Element) : Color where
  red := element.attribute? "red"
  green := element.attribute? "green"
  blue := element.attribute? "blue"
  white := element.attribute? "white"
  alpha := element.attribute? "alpha"
  colorSpace := element.attribute? "colorSpace"
  customColorSpace := element.attribute? "customColorSpace"
  systemColor :=
    (element.attribute? "cocoaTouchSystemColor").or (element.attribute? "systemColor")
  name := element.attribute? "name"

def Rect.ofElement (element : Element) : Rect where
  x := element.attribute? "x"
  y := element.attribute? "y"
  width := element.attribute? "width"
  height := element.attribute? "height"

def Size.ofElement (element : Element) : Size where
  width := element.attribute? "width"
  height := element.attribute? "height"

def Point.ofElement (element : Element) : Point where
  x := element.attribute? "x"
  y := element.attribute? "y"

def Inset.ofElement (element : Element) : Inset where
  minX := element.attribute? "minX"
  minY := element.attribute? "minY"
  maxX := element.attribute? "maxX"
  maxY := element.attribute? "maxY"

def Font.ofElement (element : Element) : Font where
  name := element.attribute? "name"
  family := element.attribute? "family"
  type := element.attribute? "type"
  style := element.attribute? "style"
  pointSize := element.attribute? "pointSize"

def Auxiliary.ofElement? (element : Element) : Option Auxiliary := do
  let key ← element.attribute? "key"
  match element.name with
  | "color" => some (.color key (.ofElement element))
  | "rect" => some (.rect key (.ofElement element))
  | "size" => some (.size key (.ofElement element))
  | "point" => some (.point key (.ofElement element))
  | "inset" => some (.inset key (.ofElement element))
  | "fontDescription" => some (.font key (.ofElement element))
  | "mutableString" | "string" => some (.text key element.text)
  | "autoresizingMask" =>
      let set := element.attributes.entries.filter fun entry =>
        entry.1 ≠ "key" && entry.2 = "YES"
      some (.autoresizing key (set.map Prod.fst))
  | "textInputTraits" =>
      some (.inputTraits (element.attributes.filterMap (· ≠ "key") Scalar.parse))
  | _ => none

def Connection.ofElement? (element : Element) : Option Connection :=
  let connection (kind : ConnectionKind) (name : String) : Connection :=
    { kind
      name := element.attribute? name
      destination := element.attribute? "destination"
      identifier := element.attribute? "id"
      eventType := element.attribute? "eventType" }
  match element.name with
  | "outlet" => some (connection .outlet "property")
  | "action" => some (connection .action "selector")
  | "outletCollection" => some (connection .outletCollection "property")
  | _ => none

/-- A constraint; a relation that is unknown counts as equality. -/
def Constraint.ofElement (element : Element) : Constraint where
  identifier := element.attribute? "id"
  firstItem := element.attribute? "firstItem"
  firstAttribute := element.attribute? "firstAttribute"
  relation := ((element.attribute? "relation").bind Relation.ofName?).getD .equal
  secondItem := element.attribute? "secondItem"
  secondAttribute := element.attribute? "secondAttribute"
  multiplier := element.attribute? "multiplier"
  constant := element.attribute? "constant"
  priority := element.attribute? "priority"

def Object.bookkeeping : List String :=
  ["id", "userLabel", "customClass", "customModule", "key", "customModuleProvider",
    "placeholderIdentifier"]

def Object.ofElement (index : Nat) (kind : Kind) (parent : Option Nat) (element : Element) :
    Object where
  index
  tag := element.name
  kind
  identifier := element.attribute? "id"
  userLabel := element.attribute? "userLabel"
  customClass := element.attribute? "customClass"
  customModule := element.attribute? "customModule"
  key := element.attribute? "key"
  parent
  attributes := element.attributes.filterMap (fun name => !bookkeeping.contains name) Scalar.parse
  children := []
  auxiliaries := []
  constraints := []

/-- Value of a runtime attribute, or nothing if its type is unknown. Structured values are keyed
children, numbers may be, and everything else is written inline. -/
def RuntimeValue.ofElement? (element : Element) : Option RuntimeValue :=
  let type := (element.attribute? "type").getD ""
  let inline := element.attribute? "value"
  let keyed (tag : String) := element.children.find? fun child =>
    child.name = tag && child.attribute? "key" = some "value"
  let orMissing (value : Option RuntimeValue) := some (value.getD (.missing type))
  match type with
  | "number" =>
      let literal := ((keyed "integer").or (keyed "real")).bind (·.attribute? "value")
      orMissing ((literal.or inline).map .number)
  | "boolean" =>
      orMissing (match inline with
        | some "YES" => some (.flag true)
        | some "NO" => some (.flag false)
        | _ => none)
  | "string" => orMissing (inline.map .string)
  | "localizedString" => orMissing (inline.map .localizedString)
  | "image" => orMissing (inline.map .image)
  | "color" => orMissing ((keyed "color").map fun child => .color (.ofElement child))
  | "size" => orMissing ((keyed "size").map fun child => .size (.ofElement child))
  | "point" => orMissing ((keyed "point").map fun child => .point (.ofElement child))
  | "rect" => orMissing ((keyed "rect").map fun child => .rect (.ofElement child))
  | "nil" => some .nil
  | _ => none

end Xib
