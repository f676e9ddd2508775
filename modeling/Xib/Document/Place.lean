import Xib.Document.Contents
import Xib.Registry

/-!
# The places of child elements

A child element of an object is a list of subviews, a layout guide, an object embedded as the value
of a property, or contents that concern its owner alone. Only the first and third hold objects.
-/

namespace Xib

set_option autoImplicit false

open Xml (Element)

def objectPropertyKeys : List String :=
  ["collectionViewLayout", "tableHeaderView", "tableFooterView", "backgroundView",
    "inputAccessoryView"]

def reservedNames : List String :=
  ["constraints", "connections", "userDefinedRuntimeAttributes", "state", "nil"]

inductive Place where
  | subviews
  | guide (key : String) (identifier : Option String)
  | embedded (key : String)
  | contents
  deriving Repr, DecidableEq

/-- A value takes precedence over an embedded object of the same name. -/
def Place.of (registry : Registry) (element : Element) : Place :=
  if element.name = "subviews" then .subviews
  else if element.name = "viewLayoutGuide" then
    .guide ((element.attribute? "key").getD "layoutGuide") (element.attribute? "id")
  else if reservedNames.contains element.name then .contents
  else
    match element.attribute? "key" with
    | none => .contents
    | some key =>
        if designTimeKeys.contains key || (Auxiliary.ofElement? element).isSome then .contents
        else if registry.contains element.name && objectPropertyKeys.contains key then
          .embedded key
        else .contents

/-- The elements that become the top-level objects: those in the first list of objects of a
document, or the root element itself. -/
def topLevel (root : Element) : List Element :=
  if root.name = "document" then
    match root.child? "objects" with
    | some objects => objects.children
    | none => []
  else [root]

end Xib
