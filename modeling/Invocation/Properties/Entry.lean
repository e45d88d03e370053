import Invocation.Properties.Line
import Invocation.Text.Surrogates

/-!
# Entries of a property file

The key of a logical line ends at the first equals sign, colon or blank that no backslash protects. Blanks, one
separator and blanks again stand between key and value. In both a backslash begins an escape.
-/

namespace Invocation

namespace Properties

def isSeparator (c : CodePoint) : Bool := c.isOneOf ['=', ':']

/-- The key as it is written, and the rest of the line from what ends the key. -/
def splitKey : Text → Text × Text
  | [] => ([], [])
  | .scalar '\\' :: c :: r =>
    let (key, rest) := splitKey r
    (.scalar '\\' :: c :: key, rest)
  | c :: r =>
    if isSeparator c || isBlank c then ([], c :: r)
    else
      let (key, rest) := splitKey r
      (c :: key, rest)

/-- What follows the blanks and the separator between key and value. -/
def afterSeparator (t : Text) : Text :=
  match t.dropWhile isBlank with
  | [] => []
  | c :: r => if isSeparator c then r.dropWhile isBlank else c :: r

/-- What a letter stands for after a backslash; any other character stands for itself. -/
def escaped (c : CodePoint) : CodePoint :=
  if c = 't' then '\t'
  else if c = 'n' then '\n'
  else if c = 'r' then '\r'
  else if c = 'f' then '\x0c'
  else c

/-- The code point that four hexadecimal digits name. -/
def unit? (digits : Text) : Option CodePoint :=
  if digits.length = 4 then (Text.toNat? 16 digits).bind CodePoint.ofNat? else none

/-- The text without escapes, and whether an escape named a surrogate. There is none if the four digits of an escape
are missing. -/
def unescape : Text → Option (Text × Bool)
  | [] => some ([], false)
  | .scalar '\\' :: .scalar 'u' :: a :: b :: c :: d :: r =>
    match unit? [a, b, c, d], unescape r with
    | some unit, some (t, surrogates) => some (unit :: t, unit.isSurrogate || surrogates)
    | _, _ => none
  | .scalar '\\' :: .scalar 'u' :: _ => none
  | .scalar '\\' :: c :: r => (unescape r).map fun (t, surrogates) => (escaped c :: t, surrogates)
  | [.scalar '\\'] => some ([], false)
  | c :: r => (unescape r).map fun (t, surrogates) => (c :: t, surrogates)

/-- What a key or a value means. Where an escape names a surrogate, pairs of surrogates are joined. -/
def meaning? (written : Text) : Option Text :=
  (unescape written).map fun (t, surrogates) => if surrogates then t.joinSurrogates else t

end Properties

end Invocation
