import Invocation.Text.Quoted

/-!
# UTF-8

Reading and writing of UTF-8. A reader stops at the first byte that cannot be read and says where the sequence that it
belongs to starts and which bytes of it were still good.
-/

namespace Invocation

namespace Utf8

/-! ## Reading -/

inductive Fault where
  | startByte
  | continuationByte
  | endOfData
deriving DecidableEq

def Fault.message : Fault → String
  | startByte => "invalid start byte"
  | continuationByte => "invalid continuation byte"
  | endOfData => "unexpected end of data"

/-- The bytes from `first` to `last` cannot be read; `lead` stands at `first`. -/
structure DecodeError where
  first : Nat
  last : Nat
  lead : UInt8
  fault : Fault
deriving DecidableEq

def DecodeError.message (e : DecodeError) : Text :=
  let place :=
    if e.first = e.last then "byte 0x" ++ Text.ofHex 2 e.lead.toNat ++ " in position " ++ Text.ofNat e.first
    else "bytes in position " ++ Text.ofNat e.first ++ "-" ++ Text.ofNat e.last
  "'utf-8' codec can't decode " ++ place ++ ": " ++ e.fault.message

/-- A sequence that has started: `missing` bytes are to come, the next one between `low` and `high`. -/
structure Opened where
  start : Nat
  lead : UInt8
  missing : Nat
  low : Nat
  high : Nat
  value : Nat

/-- The sequence that a lead byte of more than one byte opens. -/
def opened? (start : Nat) (lead : UInt8) : Option Opened :=
  let n := lead.toNat
  let opening := fun missing low high value => some (Opened.mk start lead missing low high value)
  if n < 0xC2 then none
  else if n < 0xE0 then opening 1 0x80 0xBF (n - 0xC0)
  else if n = 0xE0 then opening 2 0xA0 0xBF 0
  else if n = 0xED then opening 2 0x80 0x9F 0xD
  else if n < 0xF0 then opening 2 0x80 0xBF (n - 0xE0)
  else if n = 0xF0 then opening 3 0x90 0xBF 0
  else if n < 0xF4 then opening 3 0x80 0xBF (n - 0xF0)
  else if n = 0xF4 then opening 3 0x80 0x8F 4
  else none

def decodeFrom (position : Nat) : Option Opened → List UInt8 → Except DecodeError Text
  | none, [] => .ok []
  | some o, [] => .error ⟨o.start, position - 1, o.lead, .endOfData⟩
  | none, b :: r =>
    if b.toNat < 0x80 then (.scalar (Char.ofNat b.toNat) :: ·) <$> decodeFrom (position + 1) none r
    else
      match opened? position b with
      | some o => decodeFrom (position + 1) (some o) r
      | none => .error ⟨position, position, b, .startByte⟩
  | some o, b :: r =>
    if o.low ≤ b.toNat ∧ b.toNat ≤ o.high then
      let value := o.value * 64 + b.toNat % 64
      if o.missing ≤ 1 then (.scalar (Char.ofNat value) :: ·) <$> decodeFrom (position + 1) none r
      else decodeFrom (position + 1) (some { o with missing := o.missing - 1, low := 0x80, high := 0xBF, value }) r
    else .error ⟨o.start, position - 1, o.lead, .continuationByte⟩

def decode (bytes : List UInt8) : Except DecodeError Text := decodeFrom 0 none bytes

/-! ## Writing -/

/-- The code points from `first` to `last` are surrogates; `surrogate` is the first of them. -/
structure EncodeError where
  first : Nat
  last : Nat
  surrogate : CodePoint
deriving DecidableEq

def EncodeError.message (e : EncodeError) : Text :=
  let place :=
    if e.first = e.last then
      "character '\\u" ++ Text.ofHex 4 e.surrogate.toNat ++ "' in position " ++ Text.ofNat e.first
    else "characters in position " ++ Text.ofNat e.first ++ "-" ++ Text.ofNat e.last
  "'utf-8' codec can't encode " ++ place ++ ": surrogates not allowed"

/-- The bytes of a text that starts at `position`. Some surrogates may be spelled as single bytes. -/
def encodeFrom (byte? : Fin 2048 → Option UInt8) (position : Nat) : Text → Except EncodeError (List UInt8)
  | [] => .ok []
  | .scalar c :: r => (String.utf8EncodeChar c ++ ·) <$> encodeFrom byte? (position + 1) r
  | .surrogate i :: r =>
    match byte? i with
    | some b => (b :: ·) <$> encodeFrom byte? (position + 1) r
    | none => .error ⟨position, position + (r.takeWhile CodePoint.isSurrogate).length, .surrogate i⟩

def encode (t : Text) : Except EncodeError (List UInt8) := encodeFrom (fun _ => none) 0 t

/-- The byte above 127 for which a surrogate stands in the name of a file. -/
def byteInName? (i : Fin 2048) : Option UInt8 :=
  if 0x480 ≤ i.val ∧ i.val < 0x500 then some (UInt8.ofNat (i.val - 0x400)) else none

/-- Names of files need not be UTF-8. A byte that is not stands as a surrogate. -/
def encodeName (t : Text) : Except EncodeError (List UInt8) := encodeFrom byteInName? 0 t

end Utf8

end Invocation
