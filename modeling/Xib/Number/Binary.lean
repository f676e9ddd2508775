import Xib.Number.Decimal

/-!
# Binary64 numbers

Exact arithmetic on the 53-bit binary format: every operation is the exact result, rounded once to
the nearest representable value, a tie to the even mantissa. Results beyond the largest finite
value are infinite. Nothing here touches machine floats, so each value can be computed by the
kernel. A text spells a value with an optional sign and either a decimal or one of three words in
any mixture of cases.
-/

namespace Xib.Number

set_option autoImplicit false

/-- A finite value is `mantissa * 2 ^ exponent` with a sign, its mantissa below `2 ^ 53` and its
exponent at least `-1074`; zero keeps its sign. -/
inductive Binary where
  | finite (negative : Bool) (mantissa : Nat) (exponent : Int)
  | infinite (negative : Bool)
  | undefined
  deriving Repr, DecidableEq

inductive Tie where
  | even
  | away
  deriving Repr, DecidableEq

def nearest (numerator denominator : Nat) (tie : Tie) : Nat :=
  let quotient := numerator / denominator
  let remainder := numerator % denominator
  match compare (2 * remainder) denominator, tie with
  | .lt, _ => quotient
  | .gt, _ => quotient + 1
  | .eq, .away => quotient + 1
  | .eq, .even => if quotient % 2 = 0 then quotient else quotient + 1

namespace Binary

def zero (negative : Bool) : Binary := .finite negative 0 (-1074)

/-- The exponent that gives a positive quotient a 53-bit mantissa, or the least exponent. -/
def exponentOf (numerator denominator : Nat) : Int :=
  let guess : Int := (numerator.log2 : Int) - denominator.log2 - 52
  let least := denominator * Nat.pow 2 guess.toNat * Nat.pow 2 52
  let exponent := if numerator * Nat.pow 2 (-guess).toNat < least then guess - 1 else guess
  max exponent (-1074)

/-- A mantissa that rounding may just have carried to 54 bits. -/
def normalize (negative : Bool) (mantissa : Nat) (exponent : Int) : Binary :=
  let (mantissa, exponent) :=
    if mantissa = Nat.pow 2 53 then (Nat.pow 2 52, exponent + 1) else (mantissa, exponent)
  if 971 < exponent then .infinite negative else .finite negative mantissa exponent

def ofRatio (negative : Bool) (numerator denominator : Nat) : Binary :=
  if numerator = 0 then zero negative
  else
    let exponent := exponentOf numerator denominator
    let mantissa :=
      nearest (numerator * Nat.pow 2 (-exponent).toNat)
        (denominator * Nat.pow 2 exponent.toNat) .even
    normalize negative mantissa exponent

/-- The value nearest to a decimal. Magnitudes far outside the format are settled by the number of
digits, before any power is taken. -/
def ofDecimal (negative : Bool) (decimal : Decimal) : Binary :=
  let magnitude : Int := (Nat.toDigits 10 decimal.digits).length + decimal.exponent
  if decimal.digits = 0 then zero negative
  else if 310 < magnitude then .infinite negative
  else if magnitude < -330 then zero negative
  else
    ofRatio negative (decimal.digits * Nat.pow 10 decimal.exponent.toNat)
      (Nat.pow 10 (-decimal.exponent).toNat)

def isFinite : Binary → Bool
  | .finite .. => true
  | .infinite _ | .undefined => false

def isZero : Binary → Bool
  | .finite _ mantissa _ => mantissa = 0
  | .infinite _ | .undefined => false

def isOne (value : Binary) : Bool :=
  value = .finite false (Nat.pow 2 52) (-52)

def scale (factor : Nat) : Binary → Binary
  | .finite negative mantissa exponent =>
      ofRatio negative (mantissa * factor * Nat.pow 2 exponent.toNat)
        (Nat.pow 2 (-exponent).toNat)
  | other => other

def unscale (divisor : Nat) : Binary → Binary
  | .finite negative mantissa exponent =>
      ofRatio negative (mantissa * Nat.pow 2 exponent.toNat)
        (divisor * Nat.pow 2 (-exponent).toNat)
  | other => other

/-- The nearest integer, halves away from zero. -/
def round : Binary → Binary
  | .finite negative mantissa exponent =>
      ofRatio negative
        (nearest (mantissa * Nat.pow 2 exponent.toNat) (Nat.pow 2 (-exponent).toNat) .away) 1
  | other => other

def divide : Binary → Binary → Binary
  | .finite negative mantissa exponent, .finite negative' mantissa' exponent' =>
      ofRatio (negative != negative')
        (mantissa * Nat.pow 2 (exponent - exponent').toNat)
        (mantissa' * Nat.pow 2 (exponent' - exponent).toNat)
  | _, _ => .undefined

end Binary

def read? (text : String) : Option Binary :=
  let (negative, rest) := splitSign text.toList
  let word := String.ofList (rest.map Char.toLower)
  if word = "inf" || word = "infinity" then some (.infinite negative)
  else if word = "nan" then some .undefined
  else (Decimal.read? rest).map (.ofDecimal negative)

def readFinite? (text : String) : Option Binary :=
  (read? text).filter Binary.isFinite

end Xib.Number
