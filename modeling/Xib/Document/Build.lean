import Xib.Document
import Xib.Document.Place

/-!
# Building documents

Objects are discovered in preorder: an object is appended before its children are looked at, and
gets its subviews, values and constraints once they all are known. The first problem in document
order ends the build.
-/

namespace Xib.Document

set_option autoImplicit false

open Xml (Element)

structure Gathered where
  children : List Nat
  auxiliaries : List Auxiliary
  constraints : List Constraint

namespace Gathered

def nothing : Gathered := ⟨[], [], []⟩

def addChildren (gathered : Gathered) (children : List Nat) : Gathered :=
  { gathered with children := gathered.children ++ children }

def addValue (gathered : Gathered) (value : Auxiliary) : Gathered :=
  { gathered with auxiliaries := gathered.auxiliaries ++ [value] }

def addContents (gathered : Gathered) (contents : Contents) : Gathered :=
  { gathered with
    auxiliaries := gathered.auxiliaries ++ contents.auxiliaries
    constraints := gathered.constraints ++ contents.constraints }

def complete (gathered : Gathered) (object : Object) : Object :=
  { object with
    children := gathered.children
    auxiliaries := gathered.auxiliaries
    constraints := gathered.constraints }

end Gathered

/-- A layout guide belongs to its owner whether or not it has an identifier. -/
def addGuide (document : Document) (owner : Nat) (key : String) (identifier : Option String) :
    Except BuildError Document :=
  match identifier with
  | none => .ok document
  | some identifier => document.registerGuide identifier ⟨owner, key⟩

mutual

/-- Builds an element and everything it contains. Its object gets the next position. -/
def visit (registry : Registry) (parent : Option Nat) (document : Document) :
    Element → Except BuildError Document
  | ⟨name, attributes, text, children⟩ =>
      let element : Element := ⟨name, attributes, text, children⟩
      match registry.kind? element with
      | none => .error (.unsupportedTag name (element.attribute? "id"))
      | some kind =>
          let object := Object.ofElement document.size kind parent element
          match document.push object with
          | .error error => .error error
          | .ok pushed =>
              match visitParts registry document.size object.describe pushed .nothing children with
              | .error error => .error error
              | .ok (built, gathered) => .ok (built.modify document.size gathered.complete)

def visitAll (registry : Registry) (parent : Option Nat) (document : Document) :
    List Element → Except BuildError (Document × List Nat)
  | [] => .ok (document, [])
  | element :: rest =>
      match visit registry parent document element with
      | .error error => .error error
      | .ok built =>
          match visitAll registry parent built rest with
          | .error error => .error error
          | .ok (final, indices) => .ok (final, document.size :: indices)

def visitParts (registry : Registry) (owner : Nat) (label : String) (document : Document)
    (gathered : Gathered) : List Element → Except BuildError (Document × Gathered)
  | [] => .ok (document, gathered)
  | ⟨name, attributes, text, children⟩ :: rest =>
      let element : Element := ⟨name, attributes, text, children⟩
      match Place.of registry element with
      | .subviews =>
          match visitAll registry (some owner) document children with
          | .error error => .error error
          | .ok (built, indices) =>
              visitParts registry owner label built (gathered.addChildren indices) rest
      | .guide key identifier =>
          match document.addGuide owner key identifier with
          | .error error => .error error
          | .ok built =>
              visitParts registry owner label built
                (gathered.addValue (.guide key identifier)) rest
      | .embedded key =>
          match visit registry (some owner) document ⟨name, attributes, text, children⟩ with
          | .error error => .error error
          | .ok built =>
              visitParts registry owner label built
                (gathered.addValue (.embedded key document.size)) rest
      | .contents =>
          let contents := Contents.of label element
          visitParts registry owner label (document.warn contents.warnings)
            (gathered.addContents contents) rest

end

def ofElement (registry : Registry) (root : Element) : Except BuildError Document :=
  match visitAll registry none .empty (topLevel root) with
  | .error error => .error error
  | .ok (built, indices) => .ok (indices.foldl addRoot built)

def ofText (registry : Registry) (source : String) : Except BuildError Document :=
  match Element.parse source with
  | .error fault => .error (.markup fault)
  | .ok root => ofElement registry root

def ofBytes (registry : Registry) (bytes : List Nat) : Except BuildError Document :=
  match Text.Utf8.decode bytes with
  | .error fault => .error (.encoding fault)
  | .ok source => ofText registry source

end Xib.Document
