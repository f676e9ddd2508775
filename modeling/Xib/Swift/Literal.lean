/-!
# String literals

A literal stands between quotes. A quote, a backslash and three control characters are written
with a backslash in front; everything else stands for itself. `scan` reads a literal back and
leaves what follows it.
-/

namespace Xib.Swift

set_option autoImplicit false

def escape (character : Char) : List Char :=
  match character with
  | '"' => ['\\', '"']
  | '\\' => ['\\', '\\']
  | '\n' => ['\\', 'n']
  | '\r' => ['\\', 'r']
  | '\t' => ['\\', 't']
  | other => [other]

def string (text : String) : String :=
  String.ofList ('"' :: text.toList.flatMap escape ++ ['"'])

def unescape? (mark : Char) : Option Char :=
  match mark with
  | '"' => some '"'
  | '\\' => some '\\'
  | 'n' => some '\n'
  | 'r' => some '\r'
  | 't' => some '\t'
  | _ => none

/-- Reads the inside of a literal up to its closing quote, given whether a backslash stands just
before: the text it means, and what follows the quote. -/
def scanInside : (escaped : Bool) → List Char → Option (List Char × List Char)
  | _, [] => none
  | true, mark :: rest =>
      match unescape? mark with
      | none => none
      | some character =>
          (scanInside false rest).map fun (text, suffix) => (character :: text, suffix)
  | false, character :: rest =>
      if character = '"' then some ([], rest)
      else if character = '\\' then scanInside true rest
      else (scanInside false rest).map fun (text, suffix) => (character :: text, suffix)

def scan : List Char → Option (List Char × List Char)
  | '"' :: rest => scanInside false rest
  | _ => none

def boolean (value : Bool) : String :=
  if value then "true" else "false"

def localizedString (text : String) : String :=
  "NSLocalizedString(" ++ string text ++ ", comment: \"\")"

def image (name : String) : String :=
  "UIImage(named: " ++ string name ++ ")"

end Xib.Swift
