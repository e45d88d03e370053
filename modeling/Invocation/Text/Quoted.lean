import Invocation.Text.Printable

/-!
# Quoted text

The form in which a text stands inside a list or a message: between quotation marks, with a backslash before what
would end or hide it. Apostrophes are the usual marks; double quotes are used around an apostrophe without a double
quote.
-/

namespace Invocation

/-- The last `width` hexadecimal digits of `n`, in lower case. -/
def Text.ofHex (width n : Nat) : Text :=
  Text.padLeft width '0' (Text.ofString (String.ofList (Nat.toDigits 16 n)))

def Text.quotationMark (t : Text) : Char :=
  if t.contains (.scalar '\'') && !t.contains (.scalar '"') then '"' else '\''

/-- How `c` is written between two of `mark`. -/
def CodePoint.quotedIn (mark : Char) (c : CodePoint) : Text :=
  if c = .scalar mark || c = '\\' then ['\\', c]
  else if c = '\n' then "\\n"
  else if c = '\r' then "\\r"
  else if c = '\t' then "\\t"
  else if c.isPrintable then [c]
  else if c.toNat < 0x100 then "\\x" ++ Text.ofHex 2 c.toNat
  else if c.toNat < 0x10000 then "\\u" ++ Text.ofHex 4 c.toNat
  else "\\U" ++ Text.ofHex 8 c.toNat

def Text.quoted (t : Text) : Text :=
  let mark := t.quotationMark
  .scalar mark :: t.flatMap (CodePoint.quotedIn mark) ++ [.scalar mark]

/-- A list of texts in brackets. -/
def Text.quotedList (ts : List Text) : Text := "[" ++ Text.joinWith ", " (ts.map Text.quoted) ++ "]"

/-- How a byte is written in a quoted byte sequence; only ASCII is printable there. -/
def quotedByteIn (mark : Char) (b : UInt8) : Text :=
  let c := CodePoint.scalar (Char.ofNat b.toNat)
  if b.toNat < 0x7F then CodePoint.quotedIn mark c else "\\x" ++ Text.ofHex 2 b.toNat

/-- Bytes between quotation marks that follow a `b`. -/
def Text.quotedBytes (bytes : List UInt8) : Text :=
  let mark := Text.quotationMark (bytes.map fun b => .scalar (Char.ofNat b.toNat))
  .scalar 'b' :: .scalar mark :: bytes.flatMap (quotedByteIn mark) ++ [.scalar mark]

end Invocation
