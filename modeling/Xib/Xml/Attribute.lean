import Xib.Table
import Xib.Xml.Reference

/-!
# Attributes of a tag

Reads what stands between the name of a tag and its end. Blanks may surround the equals sign,
values are quoted, and the next attribute may follow a closing quote without a blank. Each value
is unescaped before the next attribute is looked at, so the first fault from left to right is the
one reported. Positions count bytes of the content of the tag, its name included.
-/

namespace Xib.Xml

set_option autoImplicit false

def isBlankMark (character : Char) : Bool :=
  character = ' ' || character = '\t' || character = '\r' || character = '\n'

def byteCount (text : List Char) : Nat :=
  text.foldr (fun character count => character.utf8Size + count) 0

namespace Attribute

inductive Fault where
  | missingEquals (position : Nat)
  | duplicated (position previous : Nat)
  | missingValue (position : Nat)
  | unquoted (position : Nat)
  | unclosedQuote (position : Nat) (quote : Char)
  | unclosedReference (start stop : Nat)
  | invalidCode (fault : Reference.CodeFault)
  | unknownEntity (start stop : Nat) (name : String)
  deriving Repr, DecidableEq

def Fault.message : Fault → String
  | .missingEquals position =>
      s!"position {position}: attribute key must be directly followed by `=` or space"
  | .duplicated position previous =>
      s!"position {position}: duplicated attribute, previous declaration at position {previous}"
  | .missingValue position =>
      s!"position {position}: `=` must be followed by an attribute value"
  | .unquoted position =>
      s!"position {position}: attribute value must be enclosed in `\"` or `'`"
  | .unclosedQuote position quote =>
      s!"position {position}: missing closing quote `{quote}` in attribute value"
  | .unclosedReference start stop =>
      s!"Error while escaping character at range {start}..{stop}: Cannot find ';' after '&'"
  | .invalidCode fault => fault.message
  | .unknownEntity start stop name =>
      s!"at {start}..{stop}: unrecognized entity `{name}`"

/-- The character a reference in a value stands for; `start` is the byte position of its name. -/
def resolve (start : Nat) (name : List Char) : Except Fault Char :=
  match name with
  | '#' :: code =>
      match Reference.codeInValue code with
      | .ok character => .ok character
      | .error fault => .error (.invalidCode fault)
  | _ =>
      match Reference.predefined? name with
      | some character => .ok character
      | none => .error (.unknownEntity start (start + byteCount name) (String.ofList name))

/-- Unescapes a value of `total` bytes. `pending` is a reference that has begun: the position of
its ampersand and its name so far, last character first. -/
def unescapeFrom (total : Nat) :
    (pending : Option (Nat × List Char)) → List Char → Except Fault (List Char)
  | none, [] => .ok []
  | some (start, _), [] => .error (.unclosedReference start total)
  | none, character :: rest =>
      if character = '&' then
        unescapeFrom total (some (total - byteCount (character :: rest), [])) rest
      else
        match unescapeFrom total none rest with
        | .ok characters => .ok (character :: characters)
        | .error fault => .error fault
  | some (start, name), character :: rest =>
      if character = ';' then
        match resolve (start + 1) name.reverse with
        | .error fault => .error fault
        | .ok resolved =>
            match unescapeFrom total none rest with
            | .ok characters => .ok (resolved :: characters)
            | .error fault => .error fault
      else if character = '&' then .error (.unclosedReference start total)
      else unescapeFrom total (some (start, character :: name)) rest

def unescape (value : List Char) : Except Fault String :=
  (unescapeFrom (byteCount value) none value).map String.ofList

/-- A key, given its first character and what follows: the rest of the key, and the text after it
from the equals sign on. Fails with the text where the equals sign should have been. -/
def splitKey (rest : List Char) : Except (List Char) (List Char × List Char) :=
  let key := rest.takeWhile fun character => !(character = '=' || isBlankMark character)
  let after := (rest.drop key.length).dropWhile isBlankMark
  match after with
  | '=' :: value => .ok (key, value)
  | other => .error other

def splitQuoted (quote : Char) (text : List Char) : Option (List Char × List Char) :=
  let value := text.takeWhile (· ≠ quote)
  match text.drop value.length with
  | [] => none
  | _ :: rest => some (value, rest)

/-- One attribute at a text that starts with the first character of its key: key, value and what
follows. `seen` are the earlier keys with their positions in the `total` bytes. -/
def readOne (total : Nat) (seen : List (String × Nat)) (first : Char) (rest : List Char) :
    Except Fault (String × String × List Char) :=
  let position := total - byteCount (first :: rest)
  match splitKey rest with
  | .error after => .error (.missingEquals (total - byteCount after))
  | .ok (keyRest, after) =>
      let key := String.ofList (first :: keyRest)
      match seen.lookup key with
      | some previous => .error (.duplicated position previous)
      | none =>
          match after.dropWhile isBlankMark with
          | [] => .error (.missingValue total)
          | quote :: value =>
              if quote = '"' || quote = '\'' then
                match splitQuoted quote value with
                | none => .error (.unclosedQuote total quote)
                | some (raw, next) =>
                    match unescape raw with
                    | .error fault => .error fault
                    | .ok value => .ok (key, value, next)
              else .error (.unquoted (total - byteCount (quote :: value)))

/-- Reads attributes until the text is used up. Every attribute takes at least one character, so
as much fuel as text is enough. -/
def readFrom (total : Nat) :
    (fuel : Nat) → (seen : List (String × Nat)) → (read : Table String) → List Char →
      Except Fault (Table String)
  | 0, _, read, _ => .ok read
  | fuel + 1, seen, read, text =>
      match text.dropWhile isBlankMark with
      | [] => .ok read
      | first :: rest =>
          match readOne total seen first rest with
          | .error fault => .error fault
          | .ok (key, value, next) =>
              let position := total - byteCount (first :: rest)
              readFrom total fuel ((key, position) :: seen) (read.insert key value) next

def ofTag (content : List Char) : String × Except Fault (Table String) :=
  let name := content.takeWhile fun character => !isBlankMark character
  let rest := content.drop name.length
  (String.ofList name, readFrom (byteCount content) rest.length [] .empty rest)

end Attribute

end Xib.Xml
