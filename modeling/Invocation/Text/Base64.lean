import Invocation.Text.Basic

/-!
# Base 64

Bytes from a text in which each character stands for six bits. Characters without a meaning are skipped, and padding
ends the text as soon as it completes a group of four.
-/

namespace Invocation

namespace Base64

inductive Fault where
  | padding
  | count (characters : Nat)
deriving DecidableEq

def Fault.message : Fault → Text
  | padding => "Incorrect padding"
  | count characters =>
    "Invalid base64-encoded string: number of data characters (" ++ Text.ofNat characters
      ++ ") cannot be 1 more than a multiple of 4"

/-- The six bits that a character stands for. -/
def sextet? (c : CodePoint) : Option Nat :=
  if c.isAsciiUpper then some (c.toNat - 65)
  else if c.isAsciiLower then some (c.toNat - 71)
  else if c.isAsciiDigit then some (c.toNat + 4)
  else if c = '+' then some 62
  else if c = '/' then some 63
  else none

/-- What is known within a text: how many characters have counted, the bits that make no byte yet, and the padding at
this place. -/
structure State where
  count : Nat
  bits : Nat
  padding : Nat

/-- The byte that `n` completes, where `bits` have been left over by the characters before it in the group. -/
def byteOf (place bits n : Nat) : List UInt8 :=
  if place = 1 then [UInt8.ofNat (bits * 4 + n / 16)]
  else if place = 2 then [UInt8.ofNat (bits * 16 + n / 4)]
  else if place = 3 then [UInt8.ofNat (bits * 64 + n)]
  else []

/-- The bits of `n` that belong to the next byte. -/
def leftBits (place n : Nat) : Nat :=
  if place = 0 then n else if place = 1 then n % 16 else if place = 2 then n % 4 else 0

def decodeFrom (s : State) : Text → Except Fault (List UInt8)
  | [] =>
    if s.count % 4 = 0 then .ok []
    else if s.count % 4 = 1 then .error (.count s.count)
    else .error .padding
  | c :: r =>
    if c = '=' then
      if 2 ≤ s.count % 4 ∧ 4 ≤ s.count % 4 + (s.padding + 1) then .ok []
      else decodeFrom { s with padding := if 2 ≤ s.count % 4 then s.padding + 1 else s.padding } r
    else
      match sextet? c with
      | none => decodeFrom s r
      | some n =>
        let place := s.count % 4
        (decodeFrom ⟨s.count + 1, leftBits place n, 0⟩ r).map fun bytes => byteOf place s.bits n ++ bytes

def decode (t : Text) : Except Fault (List UInt8) := decodeFrom ⟨0, 0, 0⟩ t

end Base64

end Invocation
