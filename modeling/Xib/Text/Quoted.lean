import Xib.Text.Cluster.Ranges
import Xib.Text.Hidden

/-!
# Quoted texts

A text between double quotes in which every character can be seen. Quote, backslash and the usual
controls are written as a backslash and one sign. A hidden character is written as its code point,
and so is a mark, which would otherwise sit on the character before it or on the opening quote.
-/

namespace Xib.Text

set_option autoImplicit false

def escapeSign? : Char → Option Char
  | '"' => some '"'
  | '\\' => some '\\'
  | '\n' => some 'n'
  | '\r' => some 'r'
  | '\t' => some 't'
  | '\x00' => some '0'
  | _ => none

/-- Marks combine with the character before them. The two halfwidth voicing marks count as marks
only for the end of a cluster: they take a cell of their own. -/
def isCombining (character : Char) : Bool :=
  within character.toNat Cluster.markRanges && character ≠ '\uFF9E' && character ≠ '\uFF9F'

def codeEscape (character : Char) : List Char :=
  "\\u\x7b".toList ++ Nat.toDigits 16 character.toNat ++ ['\x7d']

def quotedCharacter (character : Char) : List Char :=
  match escapeSign? character with
  | some sign => ['\\', sign]
  | none =>
      if isHidden character || isCombining character then codeEscape character
      else [character]

def quoted (text : String) : String :=
  "\"" ++ String.ofList (text.toList.flatMap quotedCharacter) ++ "\""

end Xib.Text
