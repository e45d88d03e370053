import Invocation.Text.Basic

/-!
# Surrogate pairs

A high surrogate directly before a low one spells a code point above the basic plane.
-/

namespace Invocation

/-- The code point that a surrogate pair spells. -/
def CodePoint.ofSurrogatePair (high low : CodePoint) : CodePoint :=
  .scalar (Char.ofNat (0x10000 + (high.toNat - 0xD800) * 0x400 + (low.toNat - 0xDC00)))

/-- Every surrogate pair replaced by what it spells; surrogates that stand alone stay. -/
def Text.joinSurrogates : Text → Text
  | a :: b :: r =>
    if a.isHighSurrogate && b.isLowSurrogate then CodePoint.ofSurrogatePair a b :: joinSurrogates r
    else a :: joinSurrogates (b :: r)
  | t => t

/-- The text with three replacement characters for each surrogate, one for each byte that it would take. -/
def Text.encodable (t : Text) : Text :=
  t.flatMap fun c => if c.isSurrogate then Text.fill 3 '\uFFFD' else [c]

end Invocation
