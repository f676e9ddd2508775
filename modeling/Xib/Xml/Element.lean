import Xib.Table

/-!
# Element trees

An element has a name, attributes in the order they were written, text and child elements. Text
and children are kept apart: where the text stood among the children is not remembered.
-/

namespace Xib.Xml

set_option autoImplicit false

structure Element where
  name : String
  attributes : Table String
  text : String
  children : List Element

namespace Element

instance : Inhabited Element := ⟨⟨"", .empty, "", []⟩⟩

def attribute? (element : Element) (name : String) : Option String :=
  element.attributes.get? name

def child? (element : Element) (name : String) : Option Element :=
  element.children.find? fun child => child.name = name

end Element

end Xib.Xml
