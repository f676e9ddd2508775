import Xib.Diagnostic
import Xib.Object.Markup

/-!
# Contents of an object

What child elements add to the object they stand in, subviews and embedded objects apart: values,
connections, states, runtime attributes and constraints. Markup without a generated form becomes a
warning on the object.
-/

namespace Xib

set_option autoImplicit false

open Xml (Element)

/-- Keys of elements that only describe the canvas they were drawn on. -/
def designTimeKeys : List String :=
  ["canvasLocation", "simulatedDestinationMetrics", "simulatedStatusBarMetrics",
    "simulatedTopBarMetrics", "simulatedBottomBarMetrics", "simulatedOrientationMetrics"]

structure Contents where
  auxiliaries : List Auxiliary
  constraints : List Constraint
  warnings : List Warning

namespace Contents

def nothing : Contents := ⟨[], [], []⟩

def value (auxiliary : Auxiliary) : Contents := ⟨[auxiliary], [], []⟩

def append (first second : Contents) : Contents where
  auxiliaries := first.auxiliaries ++ second.auxiliaries
  constraints := first.constraints ++ second.constraints
  warnings := first.warnings ++ second.warnings

def concat (elements : List Element) (contents : Element → Contents) : Contents :=
  elements.foldr (fun element rest => (contents element).append rest) nothing

def complaint (owner : String) (element : Element) : Warning :=
  match element.attribute? "key" with
  | some key => .unsupported owner s!"{element.name} key={key}"
  | none => .unsupported owner element.name

def unsupported (owner : String) (element : Element) : Contents where
  auxiliaries := [.unsupported element.name (element.attribute? "key")]
  constraints := []
  warnings := [complaint owner element]

def dropped (owner : String) (element : Element) : Contents :=
  ⟨[], [], [complaint owner element]⟩

def ofConstraint (owner : String) (entry : Element) : Contents :=
  if entry.name = "constraint" then
    let warnings := match entry.attribute? "relation" with
      | none => []
      | some relation =>
          if (Relation.ofName? relation).isSome then []
          else [.unsupported owner s!"constraint relation={relation}"]
    ⟨[], [.ofElement entry], warnings⟩
  else unsupported owner entry

def ofConnection (owner : String) (entry : Element) : Contents :=
  match Connection.ofElement? entry with
  | some connection => value (.connection connection)
  | none => unsupported owner entry

def ofRuntimeAttribute (owner : String) (entry : Element) : Contents :=
  if entry.name = "userDefinedRuntimeAttribute" then
    match RuntimeValue.ofElement? entry with
    | some value => .value (.runtime ⟨entry.attribute? "keyPath", value⟩)
    | none => dropped owner entry
  else dropped owner entry

inductive StateColor where
  | title
  | shadow
  deriving Repr, DecidableEq

def stateColor? (element : Element) : Option StateColor :=
  if element.name = "color" then
    match element.attribute? "key" with
    | some "titleColor" => some .title
    | some "titleShadowColor" => some .shadow
    | _ => none
  else none

def lastColor (which : StateColor) (children : List Element) : Option Color :=
  (children.filter fun child => stateColor? child = some which).getLast?.map Color.ofElement

/-- A state of a button. One whose key names no state is dropped whole. -/
def ofState (owner : String) (element : Element) : Contents :=
  match (element.attribute? "key").bind ControlState.ofName? with
  | none => dropped owner element
  | some state =>
      let others := element.children.filter fun child => (stateColor? child).isNone
      { auxiliaries :=
          [.state
            { state
              title := element.attribute? "title"
              image := element.attribute? "image"
              backgroundImage := element.attribute? "backgroundImage"
              titleColor := lastColor .title element.children
              titleShadowColor := lastColor .shadow element.children }]
        constraints := []
        warnings := others.map (complaint owner) }

/-- What an element in no other place adds to its owner. An explicit nil leaves a property at its
default. -/
def of (owner : String) (element : Element) : Contents :=
  match element.name with
  | "constraints" => .concat element.children (.ofConstraint owner)
  | "connections" => .concat element.children (.ofConnection owner)
  | "userDefinedRuntimeAttributes" => .concat element.children (.ofRuntimeAttribute owner)
  | "state" => .ofState owner element
  | "nil" => .nothing
  | _ =>
      if ((element.attribute? "key").map designTimeKeys.contains).getD false then .nothing
      else
        match Auxiliary.ofElement? element with
        | some value => .value value
        | none => .unsupported owner element

end Contents

end Xib
