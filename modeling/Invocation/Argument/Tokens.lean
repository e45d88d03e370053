import Invocation.Text.Basic

/-!
# Tokens

A blob of command line flags is cut at runs of five delimiters. Quotes have no meaning, and other white space is part
of a token.
-/

namespace Invocation

def CodePoint.isDelimiter (c : CodePoint) : Bool := c.isOneOf [' ', '\t', '\n', '\r', '\x0c']

/-- The longest pieces of the text that hold no delimiter. -/
def Text.tokens (t : Text) : List Text := (t.splitAll CodePoint.isDelimiter).filter fun piece => !piece.isEmpty

/-- A text that is not there has no tokens. -/
def tokensOf (t : Option Text) : List Text := (t.map Text.tokens).getD []

end Invocation
