import Invocation.Text.Blank

/-!
# Bindings of a dotenv file

A dotenv file is a sequence of bindings `key=value`, with quotes, comments and an optional `export` in front. What does
not have this form is skipped up to the end of the line on which this shows.
-/

namespace Invocation

namespace Dotenv

/-- A key that stands alone has no value. -/
structure Binding where
  key : Text
  value : Option Text
deriving DecidableEq

/-- Reads from the front of a text. A reader that fails leaves the text as it was when it failed. -/
abbrev Reader := OptionT (StateM Text)

namespace Reader

def peek : Reader (Option CodePoint) := do return (← getThe Text).head?

def takeWhile (p : CodePoint → Bool) : Reader Text := do
  let t ← getThe Text
  set (t.dropWhile p)
  return t.takeWhile p

/-- The blanks that come next within the line. -/
def blanks : Reader Text := takeWhile CodePoint.isInlineBlank

end Reader

open Reader

/-! ## Keys -/

def isBreak (c : CodePoint) : Bool := c = '\n'

def isBareKeyCharacter (c : CodePoint) : Bool := !c.isOneOf ['=', '#'] && !c.isBlank

/-- The word `export` and the blanks behind it, if there are any. -/
def skipExport : Reader Unit := do
  match Text.after? "export" (← getThe Text) with
  | some (c :: r) => if c.isInlineBlank then set (r.dropWhile CodePoint.isInlineBlank)
  | _ => return

/-- A key in single quotes or bare; in front of a comment there is none. -/
def key : Reader (Option Text) := do
  match ← getThe Text with
  | .scalar '#' :: _ => return none
  | .scalar '\'' :: r =>
    match Text.cutAt '\'' r with
    | some (c :: k, rest) =>
      set rest
      return some (c :: k)
    | _ => failure
  | t =>
    if (t.takeWhile isBareKeyCharacter).isEmpty then failure
    else return some (← takeWhile isBareKeyCharacter)

/-! ## Values -/

/-- What stands before the closing quote, and the rest behind it. A backslash protects what follows it. -/
def untilQuote (quote : Char) : Text → Option (Text × Text)
  | [] => none
  | [c] => if c = .scalar quote then some ([], []) else none
  | c :: d :: r =>
    if c = .scalar quote then some ([], d :: r)
    else if c = '\\' then (untilQuote quote r).map fun (content, rest) => (c :: d :: content, rest)
    else (untilQuote quote (d :: r)).map fun (content, rest) => (c :: content, rest)

/-- What may be escaped between single quotes. -/
def singleEscape? (c : CodePoint) : Option CodePoint := if c.isOneOf ['\\', '\''] then some c else none

/-- What may be escaped between double quotes. -/
def doubleEscape? (c : CodePoint) : Option CodePoint :=
  match c with
  | .scalar 'a' => some '\x07'
  | .scalar 'b' => some '\x08'
  | .scalar 'f' => some '\x0c'
  | .scalar 'n' => some '\n'
  | .scalar 'r' => some '\r'
  | .scalar 't' => some '\t'
  | .scalar 'v' => some '\x0b'
  | c => if c.isOneOf ['\\', '\'', '"'] then some c else none

/-- The text with its escapes replaced; a backslash before anything else stays. -/
def unescape (escape? : CodePoint → Option CodePoint) : Text → Text
  | .scalar '\\' :: c :: r =>
    match escape? c with
    | some d => d :: unescape escape? r
    | none => .scalar '\\' :: unescape escape? (c :: r)
  | c :: r => c :: unescape escape? r
  | [] => []

def quotedValue (quote : Char) (escape? : CodePoint → Option CodePoint) (afterQuote : Text) : Reader Text := do
  match untilQuote quote afterQuote with
  | some (content, rest) =>
    set rest
    return unescape escape? content
  | none => failure

/-- What stands before a comment, which begins at a number sign behind a blank. -/
def beforeComment (afterBlank : Bool) : Text → Text
  | [] => []
  | c :: r => if c = '#' && afterBlank then [] else c :: beforeComment c.isBlank r

/-- The value behind the equals sign and the blanks that follow it. -/
def value (afterBlank : Bool) : Reader Text := do
  match ← getThe Text with
  | .scalar '\'' :: r => quotedValue '\'' singleEscape? r
  | .scalar '"' :: r => quotedValue '"' doubleEscape? r
  | _ => return (beforeComment afterBlank (← takeWhile fun c => !isBreak c)).trimRight

/-! ## Bindings -/

/-- A comment may close the line; nothing else may stand there. -/
def lineEnd : Reader Unit := do
  let _ ← blanks
  if (← peek) = some (.scalar '#') then
    let _ ← takeWhile fun c => !isBreak c
  match ← getThe Text with
  | [] => return
  | c :: r => if isBreak c then set r else failure

def binding : Reader (Option Binding) := do
  skipExport
  let k ← key
  let _ ← blanks
  let v ←
    match ← getThe Text with
    | .scalar '=' :: r =>
      set r
      let spaces ← blanks
      some <$> value (!spaces.isEmpty)
    | _ => pure none
  lineEnd
  return k.map fun k => ⟨k, v⟩

/-- The text after the line on which it begins. -/
def nextLine (t : Text) : Text := (t.dropWhile fun c => !isBreak c).drop 1

/-- The first binding and what follows it. Where a binding fails there is none, and the rest of the line is skipped. -/
def firstBinding (t : Text) : Option Binding × Text :=
  match binding.run.run t with
  | (some b, rest) => (b, rest)
  | (none, rest) => (none, nextLine rest)

/-- All bindings of a text in their order. -/
def bindings (t : Text) : List Binding :=
  match h : t.dropWhile CodePoint.isBlank with
  | [] => []
  | c :: r =>
    let (b, rest) := firstBinding (c :: r)
    if _shorter : rest.length < (c :: r).length then
      have : (c :: r).length ≤ t.length := h ▸ (List.dropWhile_suffix CodePoint.isBlank).length_le
      b.toList ++ bindings rest
    else b.toList
termination_by t.length

end Dotenv

end Invocation
