/-!
# Decimals

A decimal is digits and a power of ten. In a text it is decimal digits with an optional point and
an optional exponent; at least one digit stands beside the point, and at least one after the
exponent mark. Signs in front and blanks are no part of it.
-/

namespace Xib.Number

set_option autoImplicit false

/-- The number `digits * 10 ^ exponent`. -/
structure Decimal where
  digits : Nat
  exponent : Int
  deriving Repr, DecidableEq

def digitsValue (start : Nat) (digits : List Char) : Nat :=
  digits.foldl (fun value digit => value * 10 + (digit.toNat - 48)) start

def splitSign : List Char → Bool × List Char
  | '-' :: rest => (true, rest)
  | '+' :: rest => (false, rest)
  | text => (false, text)

/-- The exponent after the digits: zero if nothing follows. -/
def readExponent : List Char → Option Int
  | [] => some 0
  | mark :: rest =>
      if mark = 'e' || mark = 'E' then
        let (negative, digits) := splitSign rest
        if digits ≠ [] && digits.all Char.isDigit then
          let value : Int := digitsValue 0 digits
          some (if negative then -value else value)
        else none
      else none

def splitFraction : List Char → List Char × List Char
  | '.' :: rest => (rest.takeWhile Char.isDigit, rest.dropWhile Char.isDigit)
  | text => ([], text)

def Decimal.read? (text : List Char) : Option Decimal :=
  let whole := text.takeWhile Char.isDigit
  let (fraction, rest) := splitFraction (text.dropWhile Char.isDigit)
  if whole = [] && fraction = [] then none
  else
    (readExponent rest).map fun exponent =>
      ⟨digitsValue (digitsValue 0 whole) fraction, exponent - fraction.length⟩

end Xib.Number
