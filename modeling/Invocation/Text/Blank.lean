import Invocation.Text.Basic

/-!
# Blank code points

The white space of Unicode together with the information separators, and the removal of it at both ends of a text.
-/

namespace Invocation

/-- White space in the sense of Unicode, with the four information separators. -/
def CodePoint.isBlank (c : CodePoint) : Bool :=
  let n := c.toNat
  (0x09 ≤ n && n ≤ 0x0D) || (0x1C ≤ n && n ≤ 0x20) || n == 0x85 || n == 0xA0 || n == 0x1680
    || (0x2000 ≤ n && n ≤ 0x200A) || n == 0x2028 || n == 0x2029 || n == 0x202F || n == 0x205F || n == 0x3000

/-- Blank, but no end of a line. -/
def CodePoint.isInlineBlank (c : CodePoint) : Bool := c.isBlank && !c.isOneOf ['\n', '\r']

namespace Text

def trimLeft (t : Text) : Text := t.dropWhile CodePoint.isBlank

def trimRight (t : Text) : Text := dropTrailing CodePoint.isBlank t

def trim (t : Text) : Text := trimRight (trimLeft t)

/-- The pieces between blanks. -/
def words (t : Text) : List Text := (t.splitAll CodePoint.isBlank).filter fun piece => !piece.isEmpty

end Text

end Invocation
