import Invocation.Literal.Escape
import Invocation.Text.Integer

/-!
# Faults of expressions

Why a text is no expression. Where it is clear what was meant the fault says so.
-/

namespace Invocation

namespace Literal

inductive ReadingFault where
  | noSense
  | token (f : TokenFault)
  | nullCharacter
  | unexpectedIndent
  | escape (f : EscapeFault)
  | mixedTexts
  | longInteger (digits : Nat)
  /-- One expression follows another one in brackets. -/
  | missingComma
  | missingElse
  /-- A word that is meant to be called. -/
  | missingCall (name : Text)
  /-- An equals sign where a name cannot be set. -/
  | setName
  /-- An equals sign behind something that is no name. -/
  | setOther (described : String)
  /-- A named expression whose name is none. -/
  | badName (described : String)
  | setArgument
  | setConstant (word : Text)
  | setTarget (described : String)
  | starred
  | emptyStar
  | doubleStarred
  | starredComprehension
  | unpackedComprehension
  | bareTarget
  | missingValue
  | missingColon
  | starredValue
  | bareGenerator
  | bracketedParameters
  | positionalAfterNamed
  | positionalAfterUnpacked
  | starredAfterUnpacked
deriving DecidableEq

def ReadingFault.message : ReadingFault → Text
  | noSense => "invalid syntax"
  | token f => f.message
  | nullCharacter => "source code string cannot contain null bytes"
  | unexpectedIndent => "unexpected indent"
  | escape f => f.message
  | mixedTexts => "cannot mix bytes and nonbytes literals"
  | longInteger digits =>
    longIntegerMessage digits
      ++ " - Consider hexadecimal for huge integer literals to avoid decimal conversion limits."
  | missingComma => "invalid syntax. Perhaps you forgot a comma?"
  | missingElse => "expected 'else' after 'if' expression"
  | missingCall name => "Missing parentheses in call to '" ++ name ++ "'. Did you mean " ++ name ++ "(...)?"
  | setName => "invalid syntax. Maybe you meant '==' or ':=' instead of '='?"
  | setOther described => "cannot assign to " ++ described ++ " here. Maybe you meant '==' instead of '='?"
  | badName described => "cannot use assignment expressions with " ++ described
  | setArgument => "expression cannot contain assignment, perhaps you meant \"==\"?"
  | setConstant word => "cannot assign to " ++ word
  | setTarget described => "cannot assign to " ++ described
  | starred => "cannot use starred expression here"
  | emptyStar => "Invalid star expression"
  | doubleStarred => "cannot use double starred expression here"
  | starredComprehension => "iterable unpacking cannot be used in comprehension"
  | unpackedComprehension => "dict unpacking cannot be used in dict comprehension"
  | bareTarget => "did you forget parentheses around the comprehension target?"
  | missingValue => "expression expected after dictionary key and ':'"
  | missingColon => "':' expected after dictionary key"
  | starredValue => "cannot use a starred expression in a dictionary value"
  | bareGenerator => "Generator expression must be parenthesized"
  | bracketedParameters => "Lambda expression parameters cannot be parenthesized"
  | positionalAfterNamed => "positional argument follows keyword argument"
  | positionalAfterUnpacked => "positional argument follows keyword argument unpacking"
  | starredAfterUnpacked => "iterable argument unpacking follows keyword argument unpacking"

end Literal

end Invocation
