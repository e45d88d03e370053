import Invocation.Text.Basic

/-!
# Escaping for `cmd.exe`

An argument that holds a character with a meaning for the shell is put in double quotes. Inside them a metacharacter
gets a caret, a double quote is doubled, and a letter after a percent sign is quoted apart, so that it does not begin
a reference to a variable. An argument without such a character is left as it is.
-/

namespace Invocation

namespace Shell

/-- Characters that ask for quotes and nothing more. -/
def wantsQuotes (c : CodePoint) : Bool := c.isOneOf [' ', '*', '?', ';']

/-- Metacharacters that are active inside quotes too. -/
def wantsCaret (c : CodePoint) : Bool := c.isOneOf ['^', '&', '<', '>', '|']

/-- Whether `c` asks for quotes; `percent` tells that a percent sign stands before it. -/
def isTrigger (percent : Bool) (c : CodePoint) : Bool :=
  wantsQuotes c || wantsCaret c || c = '"' || (percent && c.isAsciiLetter)

/-- How `c` is written inside quotes. -/
def spelled (percent : Bool) (c : CodePoint) : Text :=
  if wantsCaret c then ['^', c]
  else if c = '"' then ['"', c]
  else if percent && c.isAsciiLetter then ['"', c, '"']
  else [c]

/-- The rest of an argument inside quotes, up to the closing quote. -/
def quotedRest (percent : Bool) : Text → Text
  | [] => ['"']
  | c :: r => spelled percent c ++ quotedRest (c = '%') r

/-- The rest of an argument that has needed no quotes so far; `seen` is what has been read, the last first. Quotes are
opened at the first character that asks for them, in front of everything seen. -/
def escapeRest (percent : Bool) (seen : Text) : Text → Text
  | [] => seen.reverse
  | c :: r =>
    if isTrigger percent c then .scalar '"' :: (seen.reverse ++ quotedRest percent (c :: r))
    else escapeRest (c = '%') (c :: seen) r

/-- The argument as `cmd.exe` has to be given it. -/
def escape (argument : Text) : Text := escapeRest false [] argument

end Shell

end Invocation
