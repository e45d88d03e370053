import Invocation.Yaml.Token

/-!
# Moving through a document

The state of reading a document: the rest of the text, the place where it begins, the indentation of the open blocks,
the places where a key may have begun, the tokens so far, and how many of them are certain.
-/

namespace Invocation

namespace Yaml

/-- A place where a key may have begun, with the number of the token that it would stand before. A required key has to
turn out to be one. -/
structure PossibleKey where
  number : Nat
  required : Bool
  mark : Mark

structure Cursor where
  rest : Text
  mark : Mark
  /-- How many brackets and braces are open. -/
  flow : Int
  indent : Int
  outer : List Int
  keyAllowed : Bool
  possibleKeys : List (Int × PossibleKey)
  tokens : Array Token
  /-- How many tokens at the front nothing can be put before any more. -/
  certain : Nat
  finished : Bool

def Cursor.start (t : Text) : Cursor := ⟨t, ⟨0, 0, 0⟩, 0, -1, [], true, [], #[], 0, false⟩

/-- The place behind `c`, given what follows it. A byte order mark takes no column. -/
def Mark.after (m : Mark) (c : CodePoint) (next : Option CodePoint) : Mark :=
  let endsLine := isBreak c && !(c = '\r' && next = some (.scalar '\n'))
  if endsLine then ⟨m.index + 1, m.line + 1, 0⟩
  else if c = '\uFEFF' then ⟨m.index + 1, m.line, m.column⟩
  else ⟨m.index + 1, m.line, m.column + 1⟩

/-- The rest of a text and its place after `count` code points. -/
def moveOn : Nat → Mark → Text → Mark × Text
  | 0, m, t => (m, t)
  | _ + 1, m, [] => (m, [])
  | count + 1, m, c :: r => moveOn count (m.after c r.head?) r

/-- Reading stops at the first fault and keeps what has been read until then. -/
abbrev Reader := EStateM Fault Cursor

namespace Reader

def here : Reader Mark := do return (← get).mark

def rest : Reader Text := do return (← get).rest

def peek : Reader (Option CodePoint) := do return (← get).rest.head?

def peekAt (n : Nat) : Reader (Option CodePoint) := do return ((← get).rest.drop n).head?

def inFlow : Reader Bool := do return (← get).flow != 0

/-- The text has a problem at this place. -/
def fail {α : Type} (activity : Option Activity) (p : Problem) : Reader α := do
  throw (.form activity p (some (← here)))

def forward (count : Nat) : Reader Unit := do
  modify fun s =>
    let (mark, rest) := moveOn count s.mark s.rest
    { s with mark, rest }

/-- The code points up to the first that does not satisfy `p`. -/
def takeWhile (p : CodePoint → Bool) : Reader Text := do
  let t := (← get).rest.takeWhile p
  forward t.length
  return t

def skipSpaces : Reader Unit := do
  let _ ← takeWhile fun c => c = ' '

/-- What remains of the line. -/
def skipLine : Reader Unit := do
  let _ ← takeWhile fun c => !isBreak c

def skipComment : Reader Unit := do
  if (← peek) = some (.scalar '#') then skipLine

/-- The end of a line, if it comes next. Most ways to end a line count as a line feed. -/
def lineBreak : Reader Text := do
  match (← get).rest with
  | .scalar '\r' :: .scalar '\n' :: _ =>
    forward 2
    return "\n"
  | c :: _ =>
    if c.isOneOf ['\n', '\r', '\x85'] then
      forward 1
      return "\n"
    else if isBreak c then
      forward 1
      return [c]
    else return []
  | [] => return []

/-- Whether three equal marks that separate documents stand here. -/
def atSeparator : Reader Bool := do
  match (← get).rest with
  | a :: b :: c :: r => return a = b && b = c && a.isOneOf ['-', '.'] && isBlankOrEnd r.head?
  | _ => return false

def activity (what : String) : Reader Activity := do return ⟨what, some (← here)⟩

/-- Adds a token that begins at `m`. -/
def emit (m : Mark) (s : Symbol) : Reader Unit := modify fun c => { c with tokens := c.tokens.push ⟨s, m⟩ }

end Reader

end Yaml

end Invocation
