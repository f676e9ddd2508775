/-!
# Entity and character references

`&name;` stands for one character. References in text and references in attribute values are
resolved by two different rules: text takes a leading plus sign and the zero character, attribute
values take neither and say what is wrong with a reference.
-/

namespace Xib.Xml.Reference

set_option autoImplicit false

inductive DigitFault where
  | none
  | invalid
  | overflow
  deriving Repr, DecidableEq

def DigitFault.message : DigitFault → String
  | .none => "cannot parse integer from empty string"
  | .invalid => "invalid digit found in string"
  | .overflow => "number too large to fit in target type"

def digit? (radix : Nat) (character : Char) : Option Nat :=
  let code := character.toNat
  let value? :=
    if 48 ≤ code && code ≤ 57 then some (code - 48)
    else if 65 ≤ code && code ≤ 70 then some (code - 55)
    else if 97 ≤ code && code ≤ 102 then some (code - 87)
    else none
  value?.filter (· < radix)

/-- Reads digits from left to right; the first of them that does not fit decides the fault. -/
def accumulate (radix value : Nat) : List Char → Except DigitFault Nat
  | [] => .ok value
  | character :: rest =>
      match digit? radix character with
      | .none => .error .invalid
      | .some digit =>
          let next := value * radix + digit
          if next < 2 ^ 32 then accumulate radix next rest else .error .overflow

def number (radix : Nat) (digits : List Char) : Except DigitFault Nat :=
  if digits = [] then .error .none else accumulate radix 0 digits

def scalar? (code : Nat) : Option Char :=
  if code.isValidChar then some (Char.ofNat code) else none

def predefined? (name : List Char) : Option Char :=
  match String.ofList name with
  | "amp" => some '&'
  | "lt" => some '<'
  | "gt" => some '>'
  | "quot" => some '"'
  | "apos" => some '\''
  | _ => none

/-- Digits of a character reference and their radix. A lower-case x makes it hexadecimal. -/
def splitRadix : List Char → Nat × List Char
  | 'x' :: digits => (16, digits)
  | digits => (10, digits)

/-- Digits after an optional plus sign. A sign alone is kept, since it is no digit. -/
def dropPlus : List Char → List Char
  | '+' :: first :: rest => first :: rest
  | digits => digits

def inText? (name : List Char) : Option Char :=
  match name with
  | '#' :: code =>
      let (radix, digits) := splitRadix code
      match number radix (dropPlus digits) with
      | .ok value => scalar? value
      | .error _ => none
  | _ => predefined? name

inductive CodeFault where
  | sign
  | digits (fault : DigitFault)
  | zero
  | noCharacter (code : Nat)
  deriving Repr, DecidableEq

def CodeFault.message : CodeFault → String
  | .sign => "invalid character reference: unexpected number sign"
  | .digits fault => "invalid character reference: " ++ fault.message
  | .zero => "invalid character reference: 0x0 character is not permitted in XML"
  | .noCharacter code =>
      "invalid character reference: `" ++ toString code ++ "` is not a valid codepoint"

def codeInValue (code : List Char) : Except CodeFault Char :=
  let (radix, digits) := splitRadix code
  if digits.head? = some '+' || digits.head? = some '-' then .error .sign
  else
    match number radix digits with
    | .error fault => .error (.digits fault)
    | .ok value =>
        if value = 0 then .error .zero
        else
          match scalar? value with
          | none => .error (.noCharacter value)
          | some character => .ok character

end Xib.Xml.Reference
