import Xib.Text.Space
import Xib.Xml.Element
import Xib.Xml.Event

/-!
# From events to one element

`Element.ofEvents` assembles events into a tree. Text is collected in the innermost open element;
text that is only indentation between child elements is dropped when the element closes. Outside
the root element only white space may stand. `Element.parse` reads and assembles: a fault of
assembly at some event wins over any fault of reading after it.
-/

namespace Xib.Xml

set_option autoImplicit false

inductive Misfit where
  | unexpectedClose
  | textOutsideRoot
  | unknownEntity (name : String)
  | secondRoot (name : String)
  | unclosedElement (name : String)
  | noRoot
  deriving Repr, DecidableEq

def Misfit.message : Misfit → String
  | .unexpectedClose => "unexpected closing tag"
  | .textOutsideRoot => "text outside of the root element"
  | .unknownEntity name => s!"unknown entity '&{name};'"
  | .secondRoot name => s!"second root element <{name}>"
  | .unclosedElement name => s!"unclosed element <{name}>"
  | .noRoot => "document has no root element"

/-- A tree under construction: the open elements, innermost first, and the root once closed. -/
structure Assembly where
  opened : List Element
  root : Option Element

namespace Assembly

def initial : Assembly := ⟨[], none⟩

def attach (assembly : Assembly) (element : Element) : Except Misfit Assembly :=
  match assembly.opened, assembly.root with
  | parent :: others, root =>
      .ok ⟨{ parent with children := parent.children ++ [element] } :: others, root⟩
  | [], none => .ok ⟨[], some element⟩
  | [], some _ => .error (.secondRoot element.name)

def addText (assembly : Assembly) (text : String) : Except Misfit Assembly :=
  match assembly.opened with
  | innermost :: others =>
      .ok { assembly with opened := { innermost with text := innermost.text ++ text } :: others }
  | [] => if Text.isBlank text then .ok assembly else .error .textOutsideRoot

/-- A closed element keeps its text as written, unless it only separates child elements. -/
def settle (element : Element) : Element :=
  if element.children.isEmpty then element
  else if Text.isBlank element.text then { element with text := "" }
  else element

def feed (assembly : Assembly) : Event → Except Misfit Assembly
  | .start name attributes =>
      .ok { assembly with opened := ⟨name, attributes, "", []⟩ :: assembly.opened }
  | .empty name attributes => assembly.attach ⟨name, attributes, "", []⟩
  | .close _ =>
      match assembly.opened with
      | [] => .error .unexpectedClose
      | closed :: others => attach { assembly with opened := others } (settle closed)
  | .text text | .data text => assembly.addText text
  | .reference name =>
      match Reference.inText? name.toList with
      | none => .error (.unknownEntity name)
      | some character => assembly.addText (String.singleton character)
  | .ignorable => .ok assembly

def finish (assembly : Assembly) : Except Misfit Element :=
  match assembly.opened, assembly.root with
  | innermost :: _, _ => .error (.unclosedElement innermost.name)
  | [], some root => .ok root
  | [], none => .error .noRoot

end Assembly

def Element.ofEvents (events : List Event) : Except Misfit Element :=
  events.foldlM Assembly.feed Assembly.initial >>= Assembly.finish

inductive Fault where
  | markup (problem : Problem) (offset : Nat)
  | attributes (fault : Attribute.Fault)
  | assembly (misfit : Misfit)
  deriving Repr, DecidableEq

def Fault.message : Fault → String
  | .markup problem _ => problem.message
  | .attributes fault => fault.message
  | .assembly misfit => misfit.message

def Fault.offset? : Fault → Option Nat
  | .markup _ offset => some offset
  | .attributes _ | .assembly _ => none

def Fault.ofFailure (text : List Char) : Failure → Fault
  | .markup stop => .markup stop.problem (byteCount text - byteCount stop.left)
  | .attributes fault => .attributes fault

/-- The root element of a text. A byte order mark in front is no part of it. -/
def Element.parse (source : String) : Except Fault Element := do
  let text := dropMark source.toList
  let (events, failure) := readEvents text.length [] text
  let assembly ← (events.foldlM Assembly.feed Assembly.initial).mapError Fault.assembly
  match failure with
  | some failure => .error (.ofFailure text failure)
  | none => assembly.finish.mapError Fault.assembly

end Xib.Xml
