import Xib.Swift.Encode
import Xib.Swift.Statement

/-!
# Configuring an object

An object is declared and then configured: attributes in the order of their tables, the frame,
values, runtime attributes, states of a button, outlets. The first part that cannot be written
makes the whole configuration fail. References to objects without a declaration are left out.
-/

namespace Xib.Swift

set_option autoImplicit false

def gather {α β : Type} (step : α → Except GenerationError (List β)) :
    List α → Except GenerationError (List β)
  | [] => .ok []
  | item :: rest => do
      let found ← step item
      let others ← gather step rest
      return found ++ others

def initializer (object : Object) : String :=
  let raw (name : String) := (object.attribute? name).map Scalar.raw
  match object.kind with
  | .tableView =>
      "frame: .zero, style: " ++ enumeration "style" ((raw "style").getD "plain")
  | .button =>
      ((raw "buttonType").map fun type => "type: " ++ enumeration "buttonType" type).getD ""
  | .activityIndicatorView =>
      ((raw "style").map fun style => "style: " ++ enumeration "style" style).getD ""
  | .tableViewCell =>
      match raw "reuseIdentifier" with
      | none => ""
      | some identifier =>
          let style := ((raw "style").map fun style =>
            Text.Case.lowerFirst (Text.dropStarts "IBUITableViewCellStyle" style)).getD "default"
          "style: ." ++ style ++ ", reuseIdentifier: " ++ string identifier
  | _ => ""

def scalar (property : Property) (value : Scalar) : Except GenerationError String :=
  let invalid : GenerationError := .invalidValue property.key value.raw
  match property.kind with
  | .boolean =>
      match value.flag? with
      | some flag => .ok (boolean flag)
      | none => .error invalid
  | .number =>
      match value.number? with
      | some literal => .ok literal
      | none => .error invalid
  | .member => .ok (enumeration property.key value.raw)
  | .string => .ok (string value.raw)
  | .image => .ok (image value.raw)

/-- The assignment of one recognized attribute, unless it is absent or has the default value. -/
def attributeStatement (index : Nat) (object : Object) (property : Property) :
    Except GenerationError (List Statement) :=
  match object.attribute? property.key with
  | none => .ok []
  | some value =>
      if property.default = some value.raw then .ok []
      else do
        let code ← scalar property value
        return [.assign index property.name (.literal code)]

/-- The first frame; later ones have no effect. -/
def frameStatement (index : Nat) (object : Object) : Except GenerationError (List Statement) :=
  let frame := object.auxiliaries.findSome? fun
    | .rect key rect => if key = "frame" then some rect else none
    | _ => none
  match frame with
  | none => .ok []
  | some frame => do
      let code ← rect frame
      return [.assign index "frame" (.literal code)]

/-- A font named by its element goes to the font of the object, or of the title of a button. -/
def fontProperty (kind : Kind) (key : String) : String :=
  if key = "fontDescription" then
    if kind = .button then "titleLabel?.font" else "font"
  else key

def traitCode (key : String) : Scalar → String
  | .flag value => boolean value
  | .number literal => literal
  | .text content => enumeration key content

def valueStatements (scope : Scope) (index : Nat) (kind : Kind) (value : Auxiliary) :
    Except GenerationError (List Statement) :=
  let assign (property code : String) : List Statement :=
    [.assign index property (.literal code)]
  match value with
  | .color key value => (color value).map (assign key)
  | .rect key value => if key = "frame" then .ok [] else (rect value).map (assign key)
  | .size key value => (size value).map (assign key)
  | .point key value => (point value).map (assign key)
  | .inset key value => (inset value).map (assign key)
  | .font key value => (font value).map (assign (fontProperty kind key))
  | .text key text => .ok (assign key (string text))
  | .autoresizing key flags => (autoresizing flags).map (assign key)
  | .inputTraits traits =>
      .ok (traits.entries.flatMap fun (key, value) => assign (inputTrait key) (traitCode key value))
  | .embedded key object =>
      if scope.isExcluded object then .ok []
      else .ok [.assign index key (.reference (.object object))]
  | .guide .. | .runtime _ | .state _ | .connection _ | .unsupported .. => .ok []

def runtimeCode : RuntimeValue → Except GenerationError String
  | .number literal => .ok literal
  | .flag value => .ok (boolean value)
  | .string text => .ok (string text)
  | .localizedString text => .ok (localizedString text)
  | .image name => .ok (image name)
  | .color value => color value
  | .size value => size value
  | .point value => point value
  | .rect value => rect value
  | .nil => .ok "nil"
  | .missing type =>
      .error (.missingAttribute s!"userDefinedRuntimeAttribute type={type}" "value")

def runtimeStatements (index : Nat) : Auxiliary → Except GenerationError (List Statement)
  | .runtime ⟨keyPath, value⟩ => do
      let property ← required "userDefinedRuntimeAttribute" "keyPath" keyPath
      let code ← runtimeCode value
      return [.assign index property (.literal code)]
  | _ => .ok []

def stateStatements (index : Nat) (state : ButtonState) :
    Except GenerationError (List Statement) :=
  let call (method code : String) : Statement :=
    .call index method (code ++ ", for: ." ++ state.state.name)
  let colored (method : String) (value : Option Color) : Except GenerationError (List Statement) :=
    match value with
    | none => .ok []
    | some value => (color value).map fun code => [call method code]
  do
    let titles := state.title.toList.map fun title => call "setTitle" (string title)
    let images := state.image.toList.map fun name => call "setImage" (image name)
    let backgrounds := state.backgroundImage.toList.map fun name =>
      call "setBackgroundImage" (image name)
    let colors ← colored "setTitleColor" state.titleColor
    let shadows ← colored "setTitleShadowColor" state.titleShadowColor
    return titles ++ images ++ backgrounds ++ colors ++ shadows

def outletStatements (scope : Scope) (index : Nat) (connection : Connection) :
    Except GenerationError (List Statement) := do
  let property ← required "outlet" "property" connection.name
  let destination ← required "outlet" "destination" connection.destination
  let target ← scope.reference destination
  return target.toList.map fun target => .assign index property (.reference target)

def configuration (scope : Scope) (index : Nat) (object : Object) :
    Except GenerationError (List Statement) := do
  let attributes ← gather (attributeStatement index object) (Property.ofKind object.kind)
  let frame ← frameStatement index object
  let values ← gather (valueStatements scope index object.kind) object.auxiliaries
  let runtime ← gather (runtimeStatements index) object.auxiliaries
  let states ← gather (stateStatements index) (if object.kind = .button then object.states else [])
  let outlets ← gather (outletStatements scope index)
    (object.connections.filter fun connection => connection.kind = .outlet)
  return .declare index object.className (initializer object) ::
    attributes ++ frame ++ values ++ runtime ++ states ++ outlets

end Xib.Swift
