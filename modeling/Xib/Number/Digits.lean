import Xib.Number.Binary

/-!
# Writing numbers

A value is written with the fewest digits that read back to it; of two such decimals the nearer,
and on an exact tie the greater. The search tries one, two, … digits and tests the two neighbours
of the value on each grid, in exact arithmetic. How the digits are laid out is a `Layout`: the plain
layout never uses an exponent, the pointed one always shows a point or an exponent.
-/

namespace Xib.Number

set_option autoImplicit false

/-- Compares `left * 10 ^ power` with `right * 2 ^ exponent`. -/
def compareScaled (left : Nat) (power : Int) (right : Nat) (exponent : Int) : Ordering :=
  compare (left * Nat.pow 10 power.toNat * Nat.pow 2 (-exponent).toNat)
    (right * Nat.pow 2 exponent.toNat * Nat.pow 10 (-power).toNat)

/-- Whether a decimal rounds to `mantissa * 2 ^ exponent`: it lies between the midpoints to the
neighbouring values, ends included for an even mantissa. Below a power of two the lower neighbour
is half as far away. -/
def readsBack (mantissa : Nat) (exponent : Int) (decimal : Decimal) : Bool :=
  let narrow := mantissa = Nat.pow 2 52 && -1074 < exponent
  let low := if narrow then 4 * mantissa - 1 else 4 * mantissa - 2
  let high := 4 * mantissa + 2
  let ends := mantissa % 2 = 0
  let below := compareScaled decimal.digits decimal.exponent low (exponent - 2)
  let above := compareScaled decimal.digits decimal.exponent high (exponent - 2)
  (below = .gt || (ends && below = .eq)) && (above = .lt || (ends && above = .eq))

/-- The least power of ten above `mantissa * 2 ^ exponent`, searched upwards from an estimate that
is too small. -/
def scaleFrom (mantissa : Nat) (exponent : Int) : (fuel : Nat) → (start : Int) → Int
  | 0, start => start
  | fuel + 1, start =>
      if compareScaled 1 start mantissa exponent = .gt then start
      else scaleFrom mantissa exponent fuel (start + 1)

/-- Number of digits before the point of a positive value, negative for leading zeros after it. -/
def scaleOf (mantissa : Nat) (exponent : Int) : Int :=
  let bits : Int := mantissa.log2 + exponent
  scaleFrom mantissa exponent 4 (bits * 30103 / 100000 - 1)

/-- The shorter decimal on one grid that reads back: the nearer neighbour, the greater on a tie. -/
def onGrid (mantissa : Nat) (exponent grid : Int) : Option Decimal :=
  let numerator := mantissa * Nat.pow 2 exponent.toNat * Nat.pow 10 (-grid).toNat
  let denominator := Nat.pow 2 (-exponent).toNat * Nat.pow 10 grid.toNat
  let below : Decimal := ⟨numerator / denominator, grid⟩
  let above : Decimal := ⟨numerator / denominator + 1, grid⟩
  match readsBack mantissa exponent below, readsBack mantissa exponent above with
  | true, true =>
      if 2 * (numerator % denominator) < denominator then some below else some above
  | true, false => some below
  | false, true => some above
  | false, false => none

def wholeValue (mantissa : Nat) (exponent : Int) : Decimal :=
  if 0 ≤ exponent then ⟨mantissa * Nat.pow 2 exponent.toNat, 0⟩
  else ⟨mantissa * Nat.pow 5 (-exponent).toNat, exponent⟩

def stripZeros : (fuel : Nat) → Decimal → Decimal
  | 0, decimal => decimal
  | fuel + 1, decimal =>
      if decimal.digits % 10 = 0 then stripZeros fuel ⟨decimal.digits / 10, decimal.exponent + 1⟩
      else decimal

def shortest (mantissa : Nat) (exponent : Int) : Decimal :=
  let scale := scaleOf mantissa exponent
  let found := (List.range 17).findSome? fun count =>
    onGrid mantissa exponent (scale - (count + 1 : Nat))
  stripZeros 20 (found.getD (wholeValue mantissa exponent))

structure Layout where
  /-- Least and greatest power of ten of the leading digit written without an exponent; outside
  them an exponent is used. Nothing means never. -/
  positional : Option (Int × Int)
  /-- Whether an integral value still shows a point and a zero. -/
  point : Bool
  deriving Repr, DecidableEq

def Layout.plain : Layout := ⟨none, false⟩

/-- Recognizably a fraction; an exponent from `10 ^ 16` on and below `10 ^ -4`. -/
def Layout.pointed : Layout := ⟨some (-4, 15), true⟩

def layPositional (point : Bool) (digits : List Char) (exponent : Int) : List Char :=
  let lead : Int := digits.length + exponent
  if 0 ≤ exponent then
    digits ++ List.replicate exponent.toNat '0' ++ (if point then ['.', '0'] else [])
  else if 0 < lead then
    digits.take lead.toNat ++ '.' :: digits.drop lead.toNat
  else '0' :: '.' :: (List.replicate (-lead).toNat '0' ++ digits)

def layExponent (digits : List Char) (exponent : Int) : List Char :=
  let power : Int := digits.length + exponent - 1
  let fraction := digits.drop 1
  digits.take 1 ++ (if fraction = [] then [] else '.' :: fraction) ++
    'e' :: (toString power).toList

def Layout.lay (layout : Layout) (decimal : Decimal) : List Char :=
  let digits := Nat.toDigits 10 decimal.digits
  let lead : Int := digits.length + decimal.exponent - 1
  match layout.positional with
  | none => layPositional layout.point digits decimal.exponent
  | some (least, greatest) =>
      if least ≤ lead && lead ≤ greatest then
        layPositional layout.point digits decimal.exponent
      else layExponent digits decimal.exponent

def Layout.write (layout : Layout) (value : Binary) : String :=
  let sign (negative : Bool) : List Char := if negative then ['-'] else []
  match value with
  | .undefined => "NaN"
  | .infinite negative => String.ofList (sign negative ++ "inf".toList)
  | .finite negative mantissa exponent =>
      if mantissa = 0 then
        String.ofList (sign negative ++ layPositional layout.point ['0'] 0)
      else String.ofList (sign negative ++ layout.lay (shortest mantissa exponent))

end Xib.Number
