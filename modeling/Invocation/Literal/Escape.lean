import Invocation.Literal.Token
import Invocation.Text.Names

/-!
# Escapes in quoted texts

A backslash stands for other code points together with what follows it. Only the escapes that announce a number or a
name can be wrong. Places are counted in a form of the text in which every code point outside of ASCII is escaped.
-/

namespace Invocation

namespace Literal

/-! ## Faults -/

inductive EscapeFault where
  /-- An escape from one place up to another one. -/
  | escape (start stop : Nat) (reason : String)
  | byteEscape (start : Nat)
  | notAscii
deriving DecidableEq

def EscapeFault.message : EscapeFault → Text
  | escape start stop reason =>
    "(unicode error) 'unicodeescape' codec can't decode bytes in position " ++ Text.ofNat start ++ "-"
      ++ Text.ofNat (stop - 1) ++ ": " ++ reason
  | byteEscape start => "(value error) invalid \\x escape at position " ++ Text.ofNat start
  | notAscii => "bytes can only contain ASCII literal characters"

/-! ## Escapes -/

def isAscii (c : CodePoint) : Bool := c.toNat < 128

/-- The length of a code point as an escape, unless it is ASCII. -/
def escapedLength (c : CodePoint) : Nat := if isAscii c then 1 else 10

/-- Letters that announce a number, with the count of its digits. -/
def numberedEscapes : List (Char × Nat) := [('x', 2), ('u', 4), ('U', 8)]

/-- Whether a number is announced and lacks digits or is too great. -/
def checkNumber (start : Nat) (letter : Char) (count : Nat) (r : Text) : Except EscapeFault Unit :=
  let digits := (r.take count).takeWhile CodePoint.isHexDigit
  let stop := start + 2 + digits.length
  if digits.length < count then
    let form := letter.toString ++ String.ofList (List.replicate count 'X')
    throw (.escape start stop ("truncated \\" ++ form ++ " escape"))
  else if 0x110000 ≤ (Text.toNat? 16 digits).getD 0 then throw (.escape start stop "illegal Unicode character")
  else return ()

/-- Whether a name in braces is missing or unknown. -/
def checkName? (start : Nat) (r : Text) : Except EscapeFault Unit :=
  let malformed := "malformed \\N character escape"
  match r with
  | .scalar '\x7b' :: r =>
    let name := r.takeWhile fun c => c ≠ .scalar '\x7d'
    let stop := start + 3 + (name.map escapedLength).foldl (· + ·) 0
    if name.length = r.length ∨ name.isEmpty then throw (.escape start stop malformed)
    else if (CodePoint.ofName? name).isNone then throw (.escape start (stop + 1) "unknown Unicode character name")
    else return ()
  | _ => throw (.escape start (start + 2) malformed)

/-- Checks the escapes of a text from a place on. -/
def checkEscapes (place : Nat) : Text → Except EscapeFault Unit
  | [] => return ()
  | [c] => if c = '\\' then throw (.escape place (place + 1) "\\ at end of string") else return ()
  | c :: d :: r => do
    if c = '\\' then
      if d = 'N' then checkName? place r
      match numberedEscapes.find? fun e => d = .scalar e.1 with
      | some (letter, count) => checkNumber place letter count r
      | none => pure ()
      checkEscapes (place + 1 + (if isAscii d then 1 else 15)) r
    else checkEscapes (place + escapedLength c) (d :: r)

/-- Checks the escapes of a text of bytes from a place on. -/
def checkByteEscapes (place : Nat) : Text → Except EscapeFault Unit
  | c :: d :: r => do
    if c = '\\' then
      if d = 'x' ∧ !((r.take 2).length = 2 && (r.take 2).all CodePoint.isHexDigit) then throw (.byteEscape place)
      checkByteEscapes (place + 2) r
    else checkByteEscapes (place + 1) (d :: r)
  | _ => return ()

namespace QuotedText

def has (q : QuotedText) (letter : Char) : Bool := q.letters.any fun c => c = letter

/-- Whether the text is a list of bytes. -/
def isBytes (q : QuotedText) : Bool := q.has 'b'

/-- Whether expressions in braces are part of the text. -/
def isTemplate (q : QuotedText) : Bool := q.has 'f'

def check (q : QuotedText) : Except EscapeFault Unit :=
  if q.isBytes && !q.body.all isAscii then throw .notAscii
  else if q.has 'r' then return ()
  else if q.isBytes then checkByteEscapes 0 q.body
  else checkEscapes 0 q.body

end QuotedText

end Literal

end Invocation
