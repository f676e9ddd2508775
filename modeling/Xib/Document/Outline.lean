import Xib.Diagnostic
import Xib.Document.Place

/-!
# Outlines

The outline of an element tree lists, in document order, what a build can fail on: the elements
that become objects and the identifiers of layout guides. Going through it finds the first element
whose tag is not registered or the first identifier that is taken, without building anything.
-/

namespace Xib

set_option autoImplicit false

open Xml (Element)

inductive Mark where
  | object (element : Element)
  | guide (identifier : String)

namespace Mark

mutual

def ofElement (registry : Registry) : Element → List Mark
  | ⟨name, attributes, text, children⟩ =>
      .object ⟨name, attributes, text, children⟩ :: ofParts registry children

def ofAll (registry : Registry) : List Element → List Mark
  | [] => []
  | element :: rest => ofElement registry element ++ ofAll registry rest

def ofParts (registry : Registry) : List Element → List Mark
  | [] => []
  | ⟨name, attributes, text, children⟩ :: rest =>
      let own := match Place.of registry ⟨name, attributes, text, children⟩ with
        | .subviews => ofAll registry children
        | .guide _ identifier => identifier.toList.map .guide
        | .embedded _ => ofElement registry ⟨name, attributes, text, children⟩
        | .contents => []
      own ++ ofParts registry rest

end

end Mark

def outline (registry : Registry) (root : Element) : List Mark :=
  Mark.ofAll registry (topLevel root)

/-- How far a build gets: the elements whose kind was decided, and the problem that ended it. -/
structure Progress where
  elements : List Element
  error : Option BuildError

namespace Progress

def cons (element : Element) (progress : Progress) : Progress :=
  { progress with elements := element :: progress.elements }

/-- Goes through marks, given the identifiers already taken. The tag of an element is looked at
before its identifier. -/
def ofMarks (registry : Registry) : (taken : List String) → List Mark → Progress
  | _, [] => ⟨[], none⟩
  | taken, .guide identifier :: rest =>
      if taken.contains identifier then ⟨[], some (.duplicateIdentifier identifier)⟩
      else ofMarks registry (identifier :: taken) rest
  | taken, .object element :: rest =>
      if registry.contains element.name then
        match element.attribute? "id" with
        | none => (ofMarks registry taken rest).cons element
        | some identifier =>
            if taken.contains identifier then
              ⟨[element], some (.duplicateIdentifier identifier)⟩
            else (ofMarks registry (identifier :: taken) rest).cons element
      else ⟨[], some (.unsupportedTag element.name (element.attribute? "id"))⟩

end Progress

def progress (registry : Registry) (root : Element) : Progress :=
  .ofMarks registry [] (outline registry root)

end Xib
