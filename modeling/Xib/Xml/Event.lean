import Xib.Text.Space
import Xib.Xml.Attribute

/-!
# Reading markup into events

Markup is read piece by piece: text, references, tags, character data, and pieces that mean
nothing here (comments, declarations, instructions). Closing tags must match the innermost open
one. Reading stops at the first fault; the events before it stand. Nothing is normalized, and
names are not checked.

A fault is reported with what was left of the text where it was noticed, which determines its byte
offset.
-/

namespace Xib.Xml

set_option autoImplicit false

inductive Event where
  | start (name : String) (attributes : Table String)
  | empty (name : String) (attributes : Table String)
  | close (name : String)
  | text (text : String)
  | data (text : String)
  | reference (name : String)
  | ignorable

inductive Problem where
  | unclosedReference
  | unclosedTag
  | unknownMarkup
  | unclosedComment
  | unclosedData
  | unclosedDoctype
  | unnamedDoctype
  | unclosedInstruction
  | unmatchedClose (name : String)
  | mismatchedClose (expected found : String)
  deriving Repr, DecidableEq

def Problem.message : Problem → String
  | .unclosedReference =>
      "ill-formed document: entity or character reference not closed: " ++
        "`;` not found before end of input"
  | .unclosedTag => "syntax error: tag not closed: `>` not found before end of input"
  | .unknownMarkup => "syntax error: unknown or missed symbol in markup"
  | .unclosedComment => "syntax error: comment not closed: `-->` not found before end of input"
  | .unclosedData => "syntax error: CDATA not closed: `]]>` not found before end of input"
  | .unclosedDoctype => "syntax error: DOCTYPE not closed: `>` not found before end of input"
  | .unnamedDoctype =>
      "ill-formed document: `<!DOCTYPE>` declaration does not contain a name of a document type"
  | .unclosedInstruction =>
      "syntax error: processing instruction or xml declaration not closed: " ++
        "`?>` not found before end of input"
  | .unmatchedClose name =>
      s!"ill-formed document: close tag `</{name}>` does not match any open tag"
  | .mismatchedClose expected found =>
      s!"ill-formed document: expected `</{expected}>`, but `</{found}>` was found"

/-- A piece of markup, before closing tags are matched and attributes are read. -/
inductive Piece where
  | text (text : List Char)
  | reference (name : List Char)
  | openTag (content : List Char)
  | emptyTag (content : List Char)
  | closeTag (name : List Char)
  | data (text : List Char)
  | ignorable
  deriving Repr, DecidableEq

/-- A problem and what was left of the text where it was noticed. -/
structure Stop where
  problem : Problem
  left : List Char
  deriving Repr, DecidableEq

def breakAt (mark : List Char) : List Char → Option (List Char × List Char)
  | [] => none
  | character :: rest =>
      if mark.isPrefixOf (character :: rest) then
        some ([], (character :: rest).drop mark.length)
      else (breakAt mark rest).map fun (before, after) => (character :: before, after)

/-- The content of a tag up to the first closing bracket outside quotes, and the text after it. -/
def breakTag : (quote : Option Char) → List Char → Option (List Char × List Char)
  | _, [] => none
  | none, character :: rest =>
      if character = '>' then some ([], rest)
      else
        let quote := if character = '"' || character = '\'' then some character else none
        (breakTag quote rest).map fun (before, after) => (character :: before, after)
  | some quote, character :: rest =>
      let quote := if character = quote then none else some quote
      (breakTag quote rest).map fun (before, after) => (character :: before, after)

/-- The content of a declaration with nested brackets, and the text from its closing bracket on. -/
def breakNested : (depth : Nat) → List Char → Option (List Char × List Char)
  | _, [] => none
  | depth, character :: rest =>
      if character = '>' then
        match depth with
        | 0 => some ([], character :: rest)
        | depth + 1 =>
            (breakNested depth rest).map fun (before, after) => (character :: before, after)
      else
        let depth := if character = '<' then depth + 1 else depth
        (breakNested depth rest).map fun (before, after) => (character :: before, after)

def readReference (rest : List Char) : Except Problem (Piece × List Char) :=
  let name := rest.takeWhile fun character =>
    !(character = ';' || character = '&' || character = '<')
  match rest.drop name.length with
  | ';' :: after => .ok (.reference name, after)
  | _ => .error .unclosedReference

/-- A comment, given the text after `<!-`. -/
def readComment (rest : List Char) : Except Problem (Piece × List Char) :=
  match rest with
  | '-' :: content =>
      match breakAt ['-', '-', '>'] content with
      | some (_, after) => .ok (.ignorable, after)
      | none => .error .unclosedComment
  | _ => .error .unclosedComment

/-- Character data, given the text after `<![`. -/
def readData (rest : List Char) : Except Problem (Piece × List Char) :=
  let opening := ['C', 'D', 'A', 'T', 'A', '[']
  if opening.isPrefixOf rest then
    match breakAt [']', ']', '>'] (rest.drop opening.length) with
    | some (text, after) => .ok (.data text, after)
    | none => .error .unclosedData
  else .error .unclosedData

/-- A document type declaration, given the text after `<!`. -/
def readDoctype (start rest : List Char) : Except Stop (Piece × List Char) :=
  let keyword := rest.take 7
  if keyword.map Char.toUpper = ['D', 'O', 'C', 'T', 'Y', 'P', 'E'] then
    match breakNested 0 (rest.drop 7) with
    | none => .error ⟨.unclosedDoctype, start⟩
    | some (content, after) =>
        if content.all isBlankMark then .error ⟨.unnamedDoctype, after⟩
        else .ok (.ignorable, after.drop 1)
  else .error ⟨.unclosedDoctype, start⟩

/-- A processing instruction or declaration, given the text after `<?`. -/
def readInstruction (rest : List Char) : Except Problem (Piece × List Char) :=
  if rest.head? = some '>' then .error .unclosedInstruction
  else
    match breakAt ['?', '>'] rest with
    | some (_, after) => .ok (.ignorable, after)
    | none => .error .unclosedInstruction

/-- The name in a closing tag, without blanks at its end. Blanks alone are kept as a name. -/
def closingName (content : List Char) : List Char :=
  if content.all isBlankMark then content
  else Text.dropTrailing isBlankMark content

def readTag (rest : List Char) : Except Problem (Piece × List Char) :=
  match breakTag none rest with
  | none => .error .unclosedTag
  | some ('/' :: content, after) => .ok (.closeTag (closingName content), after)
  | some (content, after) =>
      if content.getLast? = some '/' then .ok (.emptyTag content.dropLast, after)
      else .ok (.openTag content, after)

def readPiece (first : Char) (rest : List Char) : Except Stop (Piece × List Char) :=
  let start := first :: rest
  let located (result : Except Problem (Piece × List Char)) : Except Stop (Piece × List Char) :=
    result.mapError fun problem => ⟨problem, start⟩
  if first = '&' then located (readReference rest)
  else if first = '<' then
    match rest with
    | '!' :: '[' :: after => located (readData after)
    | '!' :: '-' :: after => located (readComment after)
    | '!' :: mark :: after =>
        if mark = 'D' || mark = 'd' then readDoctype start (mark :: after)
        else .error ⟨.unknownMarkup, start⟩
    | ['!'] => .error ⟨.unknownMarkup, start⟩
    | '?' :: after => located (readInstruction after)
    | other => located (readTag other)
  else
    let run := start.takeWhile fun character => !(character = '<' || character = '&')
    .ok (.text run, start.drop run.length)

inductive Failure where
  | markup (stop : Stop)
  | attributes (fault : Attribute.Fault)
  deriving Repr, DecidableEq

/-- The event of a piece and the names that are open after it; `start` is the text the piece began
with. -/
def Event.ofPiece (opened : List String) (start : List Char) (piece : Piece) :
    Except Failure (Event × List String) :=
  match piece with
  | .text content => .ok (.text (String.ofList content), opened)
  | .reference name => .ok (.reference (String.ofList name), opened)
  | .data content => .ok (.data (String.ofList content), opened)
  | .ignorable => .ok (.ignorable, opened)
  | .openTag content =>
      match Attribute.ofTag content with
      | (name, .ok attributes) => .ok (.start name attributes, name :: opened)
      | (_, .error fault) => .error (.attributes fault)
  | .emptyTag content =>
      match Attribute.ofTag content with
      | (name, .ok attributes) => .ok (.empty name attributes, opened)
      | (_, .error fault) => .error (.attributes fault)
  | .closeTag name =>
      let found := String.ofList name
      match opened with
      | [] => .error (.markup ⟨.unmatchedClose found, start⟩)
      | expected :: others =>
          if expected = found then .ok (.close found, others)
          else .error (.markup ⟨.mismatchedClose expected found, start⟩)

/-- Reads events until the text ends or cannot be read on. Every piece takes at least one
character, so as much fuel as text is enough. -/
def readEvents : (fuel : Nat) → (opened : List String) → List Char → List Event × Option Failure
  | 0, _, _ => ([], none)
  | _ + 1, _, [] => ([], none)
  | fuel + 1, opened, first :: rest =>
      match readPiece first rest with
      | .error stop => ([], some (.markup stop))
      | .ok (piece, after) =>
          match Event.ofPiece opened (first :: rest) piece with
          | .error failure => ([], some failure)
          | .ok (event, opened) =>
              let (events, failure) := readEvents fuel opened after
              (event :: events, failure)

def dropMark : List Char → List Char
  | '\uFEFF' :: rest => rest
  | text => text

end Xib.Xml
