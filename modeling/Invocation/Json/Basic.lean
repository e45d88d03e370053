import Invocation.Text.Quoted

/-!
# JSON

The JSON values that reports are made of, and their text with one item on a line.
-/

namespace Invocation

inductive Json where
  | null
  | bool (b : Bool)
  | number (n : Int)
  | text (t : Text)
  | array (items : List Json)
  | object (members : List (Text × Json))
deriving Inhabited

namespace Json

def texts (ts : List Text) : Json := array (ts.map text)

def bools (bs : List Bool) : Json := array (bs.map bool)

def ofOption (t : Option Text) : Json := (t.map text).getD null

/-- An object whose member names are known. -/
def record (members : List (String × Json)) : Json := object (members.map fun m => (Text.ofString m.1, m.2))

/-! ## Writing -/

/-- How a code point is written inside a string: only controls, the quote and the backslash are escaped. -/
def escapedCodePoint (c : CodePoint) : Text :=
  if c = '"' || c = '\\' then ['\\', c]
  else if c = '\n' then "\\n"
  else if c = '\r' then "\\r"
  else if c = '\t' then "\\t"
  else if c = '\x08' then "\\b"
  else if c = '\x0c' then "\\f"
  else if c.toNat < 0x20 then "\\u" ++ Text.ofHex 4 c.toNat
  else [c]

def stringText (t : Text) : Text := "\"" ++ t.flatMap escapedCodePoint ++ "\""

def newLine (depth : Nat) : Text := .scalar '\n' :: Text.fill (2 * depth) ' '

mutual

/-- The text of a value, its members indented by two spaces for each level. -/
def pretty (depth : Nat) : Json → Text
  | null => "null"
  | bool b => if b then "true" else "false"
  | number n => Text.ofInt n
  | text t => stringText t
  | array [] => "[]"
  | array (item :: items) =>
    "[" ++ newLine (depth + 1) ++ pretty (depth + 1) item ++ prettyItems (depth + 1) items ++ newLine depth ++ "]"
  | object [] => "\x7b\x7d"
  | object ((name, value) :: members) =>
    "\x7b" ++ newLine (depth + 1) ++ stringText name ++ ": " ++ pretty (depth + 1) value
      ++ prettyMembers (depth + 1) members ++ newLine depth ++ "\x7d"

def prettyItems (depth : Nat) : List Json → Text
  | [] => []
  | item :: items => "," ++ newLine depth ++ pretty depth item ++ prettyItems depth items

def prettyMembers (depth : Nat) : List (Text × Json) → Text
  | [] => []
  | (name, value) :: members =>
    "," ++ newLine depth ++ stringText name ++ ": " ++ pretty depth value ++ prettyMembers depth members

end

end Json

end Invocation
