import Invocation.Text.Basic

/-!
# Line breaks

The three ways to end a line in a file are one in a text. What Unicode calls the end of a line is more than that.
-/

namespace Invocation

/-- Line feed, vertical tab, form feed, carriage return, three information separators, next line, and the separators of
lines and paragraphs. -/
def CodePoint.endsLine (c : CodePoint) : Bool :=
  let n := c.toNat
  (0x0A ≤ n && n ≤ 0x0D) || (0x1C ≤ n && n ≤ 0x1E) || n == 0x85 || n == 0x2028 || n == 0x2029

/-- Every carriage return, with or without a line feed behind it, as a line feed. -/
def Text.normalizeBreaks : Text → Text
  | .scalar '\r' :: .scalar '\n' :: r => .scalar '\n' :: normalizeBreaks r
  | .scalar '\r' :: r => .scalar '\n' :: normalizeBreaks r
  | c :: r => c :: normalizeBreaks r
  | [] => []

end Invocation
