import Xib.Diagnostic
import Xib.Object

/-!
# Documents

A document holds its objects in the order they were discovered; an object is referred to by its
position. Two tables lead from markup identifiers to objects and to layout guides. An identifier
is in at most one of them, once: an operation that would break this fails, and then there is no
new document.
-/

namespace Xib

set_option autoImplicit false

structure Guide where
  owner : Nat
  key : String
  deriving Repr, DecidableEq

structure Document where
  objects : List Object
  /-- Positions of the top-level objects. -/
  roots : List Nat
  identifiers : Table Nat
  guides : Table Guide
  warnings : List Warning

namespace Document

def empty : Document := ⟨[], [], .empty, .empty, []⟩

def size (document : Document) : Nat :=
  document.objects.length

def object? (document : Document) (index : Nat) : Option Object :=
  document.objects[index]?

def find? (document : Document) (identifier : String) : Option Nat :=
  document.identifiers.get? identifier

def guide? (document : Document) (identifier : String) : Option Guide :=
  document.guides.get? identifier

def root? (document : Document) : Option Nat :=
  document.roots.find? fun index =>
    match document.object? index with
    | some object => !object.kind.isPlaceholder
    | none => false

/-- Positions in the order code is written: last discovered first, so that an object comes after
everything it contains. -/
def generationOrder (document : Document) : List Nat :=
  (List.range document.size).reverse

def isTaken (document : Document) (identifier : String) : Bool :=
  document.identifiers.contains identifier || document.guides.contains identifier

/-- Appends an object. Its position is the size of the document before. -/
def push (document : Document) (object : Object) : Except BuildError Document :=
  match object.identifier with
  | none => .ok { document with objects := document.objects ++ [object] }
  | some identifier =>
      if document.isTaken identifier then .error (.duplicateIdentifier identifier)
      else
        .ok { document with
          objects := document.objects ++ [object]
          identifiers := document.identifiers.insert identifier document.size }

def registerGuide (document : Document) (identifier : String) (guide : Guide) :
    Except BuildError Document :=
  if document.isTaken identifier then .error (.duplicateIdentifier identifier)
  else .ok { document with guides := document.guides.insert identifier guide }

def addRoot (document : Document) (index : Nat) : Document :=
  { document with roots := document.roots ++ [index] }

def warn (document : Document) (warnings : List Warning) : Document :=
  { document with warnings := document.warnings ++ warnings }

def modify (document : Document) (index : Nat) (change : Object → Object) : Document :=
  { document with objects := document.objects.modify index change }

end Document

end Xib
