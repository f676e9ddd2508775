import Xib.Xml.Element

/-!
# Printing elements

The plain written form of an element: attributes in double quotes, then the text, then the
children, then a closing tag. Characters that mean something in markup are written as references,
so reading gives the element back.
-/

namespace Xib.Xml

set_option autoImplicit false

def escapeCharacter (character : Char) : List Char :=
  match character with
  | '&' => ['&', 'a', 'm', 'p', ';']
  | '<' => ['&', 'l', 't', ';']
  | '>' => ['&', 'g', 't', ';']
  | '"' => ['&', 'q', 'u', 'o', 't', ';']
  | '\'' => ['&', 'a', 'p', 'o', 's', ';']
  | other => [other]

def escape (text : String) : List Char :=
  text.toList.flatMap escapeCharacter

/-- Attributes, each with a blank in front. -/
def renderAttributes (attributes : Table String) : List Char :=
  attributes.entries.flatMap fun (name, value) =>
    ' ' :: name.toList ++ '=' :: '"' :: escape value ++ ['"']

namespace Element

mutual

def render : Element → List Char
  | ⟨name, attributes, text, children⟩ =>
      '<' :: name.toList ++ renderAttributes attributes ++ '>' :: escape text ++
        renderAll children ++ '<' :: '/' :: name.toList ++ ['>']

def renderAll : List Element → List Char
  | [] => []
  | element :: rest => render element ++ renderAll rest

end

end Element

end Xib.Xml
