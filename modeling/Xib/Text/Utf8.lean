/-!
# Decoding UTF-8

`decode` reads bytes as text. A failure says at which byte the first ill-formed sequence starts
and how many bytes of it are certainly wrong: that is the longest piece that began like a
character, or nothing when the bytes end inside a character that was fine so far.
-/

namespace Xib.Text.Utf8

set_option autoImplicit false

structure Fault where
  /-- Number of bytes before the ill-formed sequence. -/
  index : Nat
  /-- Length of the ill-formed sequence, or nothing if the bytes end inside a character. -/
  length : Option Nat
  deriving Repr, DecidableEq

def Fault.message (fault : Fault) : String :=
  match fault.length with
  | some length => s!"invalid utf-8 sequence of {length} bytes from index {fault.index}"
  | none => s!"incomplete utf-8 byte sequence from index {fault.index}"

/-- Number of continuation bytes after a lead byte and the bounds of the first of them. The bounds
keep out overlong forms, surrogates and code points beyond the last. -/
def continuation (lead : Nat) : Option (Nat × Nat × Nat) :=
  if 0xC2 ≤ lead && lead ≤ 0xDF then some (1, 0x80, 0xBF)
  else if lead = 0xE0 then some (2, 0xA0, 0xBF)
  else if lead = 0xED then some (2, 0x80, 0x9F)
  else if 0xE1 ≤ lead && lead ≤ 0xEF then some (2, 0x80, 0xBF)
  else if lead = 0xF0 then some (3, 0x90, 0xBF)
  else if 0xF1 ≤ lead && lead ≤ 0xF3 then some (3, 0x80, 0xBF)
  else if lead = 0xF4 then some (3, 0x80, 0x8F)
  else none

/-- Reads the remaining continuation bytes of one character into `code`. On failure, how many of
them were fine and whether the bytes ran out. -/
def readTail : (count low high code : Nat) → List Nat → Except (Nat × Bool) Nat
  | 0, _, _, code, _ => .ok code
  | _ + 1, _, _, _, [] => .error (0, true)
  | count + 1, low, high, code, byte :: rest =>
      if low ≤ byte && byte ≤ high then
        match readTail count 0x80 0xBF (code * 64 + (byte - 0x80)) rest with
        | .ok result => .ok result
        | .error (fine, ended) => .error (fine + 1, ended)
      else .error (0, false)

def leadBits (lead count : Nat) : Nat :=
  lead % Nat.pow 2 (6 - count)

def readCharacter (lead : Nat) (rest : List Nat) : Except (Option Nat) (Char × Nat) :=
  if lead < 0x80 then .ok (Char.ofNat lead, 1)
  else
    match continuation lead with
    | none => .error (some 1)
    | some (count, low, high) =>
        match readTail count low high (leadBits lead count) rest with
        | .ok code => .ok (Char.ofNat code, count + 1)
        | .error (fine, ended) => .error (if ended then none else some (fine + 1))

/-- Decodes the bytes from `index` on; `skip` of them belong to a character already read. -/
def decodeFrom : (index skip : Nat) → List Nat → Except Fault (List Char)
  | _, _, [] => .ok []
  | index, skip + 1, _ :: rest => decodeFrom (index + 1) skip rest
  | index, 0, lead :: rest =>
      match readCharacter lead rest with
      | .error length => .error ⟨index, length⟩
      | .ok (character, size) =>
          match decodeFrom (index + 1) (size - 1) rest with
          | .ok characters => .ok (character :: characters)
          | .error fault => .error fault

/-- The text that bytes (each below 256) stand for. -/
def decode (bytes : List Nat) : Except Fault String :=
  (decodeFrom 0 0 bytes).map String.ofList

end Xib.Text.Utf8
