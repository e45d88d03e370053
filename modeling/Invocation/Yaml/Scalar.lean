import Invocation.Yaml.Cursor

/-!
# Scalars

A scalar is plain, quoted, or a block that its indentation delimits. Within a scalar a single line break is folded into
a space, and more of them into one less; a literal block keeps its breaks.
-/

namespace Invocation

namespace Yaml

open Reader

/-- The breaks that a folded line break leaves: the break itself if it is an unusual one, a space if nothing follows
it, and the breaks that follow. -/
def folded (first : Text) (others : List Text) : Text :=
  if first ≠ ("\n" : Text) then first ++ others.flatten
  else if others.isEmpty then " "
  else others.flatten

/-! ## Plain scalars -/

/-- How many code points belong to a plain scalar before the next blank or indicator. -/
def plainLength (flow : Bool) : Text → Nat
  | [] => 0
  | c :: r =>
    let isIndicator :=
      isBlankOrEnd (some c)
        || (c = ':' && (isBlankOrEnd r.head?
          || (flow && r.head?.any fun d => d.isOneOf [',', '[', ']', '\x7b', '\x7d'])))
        || (flow && c.isOneOf [',', '?', '[', ']', '\x7b', '\x7d'])
    if isIndicator then 0 else plainLength flow r + 1

/-- The line breaks that follow a break inside a plain scalar; none if a mark that separates documents comes. -/
def plainBreaks : Nat → List Text → Reader (Option (List Text))
  | 0, breaks => return some breaks
  | fuel + 1, breaks => do
    match ← peek with
    | some c =>
      if c = ' ' then
        forward 1
        plainBreaks fuel breaks
      else if isBreak c then
        let b ← lineBreak
        if ← atSeparator then return none
        else plainBreaks fuel (breaks ++ [b])
      else return some breaks
    | none => return some breaks

/-- What the blanks between two parts of a plain scalar become. -/
def plainSpaces : Reader Text := do
  let spaces ← takeWhile fun c => c = ' '
  if (← peek).any isBreak then
    let b ← lineBreak
    modify fun s => { s with keyAllowed := true }
    if ← atSeparator then return []
    match ← plainBreaks (← rest).length [] with
    | none => return []
    | some breaks => return folded b breaks
  else return spaces

/-- The parts of a plain scalar, with what stands between them. -/
def plainParts (indent : Int) : Nat → Text → Text → Reader Text
  | 0, read, _ => return read
  | fuel + 1, read, spaces => do
    let flow ← inFlow
    let t ← rest
    let length := if t.head? = some (.scalar '#') then 0 else plainLength flow t
    if length = 0 then return read
    modify fun s => { s with keyAllowed := false }
    forward length
    let read := read ++ spaces ++ t.take length
    let spaces ← plainSpaces
    let s ← get
    if spaces.isEmpty || s.rest.head? = some (.scalar '#') || (!flow && (s.mark.column : Int) < indent) then
      return read
    else plainParts indent fuel read spaces

def plainScalar : Reader Text := do
  plainParts ((← get).indent + 1) ((← rest).length + 1) [] []

/-! ## Quoted scalars -/

/-- What a character stands for after a backslash. -/
def escaped? (c : CodePoint) : Option CodePoint :=
  match c with
  | .scalar '0' => some '\x00'
  | .scalar 'a' => some '\x07'
  | .scalar 'b' => some '\x08'
  | .scalar 't' | .scalar '\t' => some '\t'
  | .scalar 'n' => some '\n'
  | .scalar 'v' => some '\x0b'
  | .scalar 'f' => some '\x0c'
  | .scalar 'r' => some '\r'
  | .scalar 'e' => some '\x1b'
  | .scalar 'N' => some '\x85'
  | .scalar '_' => some '\xa0'
  | .scalar 'L' => some '\u2028'
  | .scalar 'P' => some '\u2029'
  | c => if c.isOneOf [' ', '"', '\\', '/'] then some c else none

/-- How many hexadecimal digits follow a letter after a backslash. -/
def escapeDigits? (c : CodePoint) : Option Nat :=
  match c with
  | .scalar 'x' => some 2
  | .scalar 'u' => some 4
  | .scalar 'U' => some 8
  | _ => none

/-- The code point that an escape names by its digits. -/
def numberedEscape (a : Activity) (count : Nat) : Reader CodePoint := do
  let digits := ((← rest).take count).takeWhile CodePoint.isHexDigit
  if digits.length < count then
    fail a (.expected ("escape sequence of " ++ toString count ++ " hexadecimal numbers") (← peekAt digits.length))
  let n := (Text.toNat? 16 digits).getD 0
  match CodePoint.ofNat? n with
  | some c =>
    forward count
    return c
  | none => throw (.value (if n < 0x80000000 then .codePoint else .codePointWord))

/-- Line breaks and blanks inside quotes, up to the next character of the scalar. -/
def quotedBreaks (a : Activity) : Nat → List Text → Reader (List Text)
  | 0, breaks => return breaks
  | fuel + 1, breaks => do
    if ← atSeparator then fail a .separatorInQuotes
    let _ ← takeWhile fun c => c.isOneOf [' ', '\t']
    if (← peek).any isBreak then
      let b ← lineBreak
      quotedBreaks a fuel (breaks ++ [b])
    else return breaks

/-- What blanks and line breaks inside quotes become. -/
def quotedSpaces (start : Mark) : Reader Text := do
  let spaces ← takeWhile fun c => c.isOneOf [' ', '\t']
  let a : Activity := ⟨"while scanning a quoted scalar", some start⟩
  match ← peek with
  | none => fail a .endInQuotes
  | some c =>
    if isBreak c then
      let b ← lineBreak
      return folded b (← quotedBreaks a (← rest).length [])
    else return spaces

/-- What stands inside quotes up to the next blank or closing quote. -/
def quotedPart (double : Bool) (start : Mark) : Nat → Text → Reader Text
  | 0, read => return read
  | fuel + 1, read => do
    let piece ← takeWhile fun c => !c.isOneOf ['\'', '"', '\\'] && !isBlankOrEnd (some c)
    let read := read ++ piece
    let a : Activity := ⟨"while scanning a double-quoted scalar", some start⟩
    match double, ← rest with
    | false, .scalar '\'' :: .scalar '\'' :: _ =>
      forward 2
      quotedPart double start fuel (read ++ [.scalar '\''])
    | true, .scalar '\\' :: r =>
      forward 1
      match r.head?, r.head?.bind escaped?, r.head?.bind escapeDigits? with
      | _, some c, _ =>
        forward 1
        quotedPart double start fuel (read ++ [c])
      | _, none, some count =>
        forward 1
        let c ← numberedEscape a count
        quotedPart double start fuel (read ++ [c])
      | c, none, none =>
        if c.any isBreak then
          let _ ← lineBreak
          let breaks ← quotedBreaks ⟨"while scanning a quoted scalar", some start⟩ (← rest).length []
          quotedPart double start fuel (read ++ breaks.flatten)
        else fail a (.unknownEscape c)
    | _, c :: _ =>
      if c = (if double then '\'' else '"') || (!double && c = '\\') then
        forward 1
        quotedPart double start fuel (read ++ [c])
      else return read
    | _, [] => return read

/-- The parts of a quoted scalar up to its closing quote, which is taken too. -/
def quotedParts (double : Bool) (start : Mark) : Nat → Text → Reader Text
  | 0, read => return read
  | fuel + 1, read => do
    let read ← quotedPart double start ((← rest).length + 1) read
    if (← peek) = some (.scalar (if double then '"' else '\'')) then
      forward 1
      return read
    else
      let spaces ← quotedSpaces start
      quotedParts double start fuel (read ++ spaces)

def quotedScalar (double : Bool) : Reader Text := do
  let start ← here
  forward 1
  quotedParts double start ((← rest).length + 2) []

/-! ## Block scalars -/

/-- What becomes of the line breaks at the end of a block. -/
inductive Chomping where
  | clip
  | strip
  | keep
deriving DecidableEq

def chompingOf? (c : Option CodePoint) : Option Chomping :=
  if c = some (.scalar '+') then some .keep else if c = some (.scalar '-') then some .strip else none

/-- The mark for the end of the block, if there is one here. -/
def chomping : Reader (Option Chomping) := do
  match chompingOf? (← peek) with
  | some c =>
    forward 1
    return some c
  | none => return none

/-- The digit for the indentation, if there is one here. -/
def increment (a : Activity) : Reader (Option Nat) := do
  match (← peek).filter CodePoint.isAsciiDigit with
  | some c =>
    if c = '0' then fail a .zeroIndentation
    forward 1
    return c.digit?
  | none => return none

/-- The two marks of a block in either order. -/
def blockHeader (a : Activity) : Reader (Chomping × Option Nat) := do
  let before ← chomping
  let digit ← increment a
  let after ← if before.isNone && digit.isSome then chomping else pure none
  let next ← peek
  if isSpaceOrEnd next then
    skipSpaces
    skipComment
    let next ← peek
    if !isEnd next then fail a (.expected "a comment or a line break" next)
    let _ ← lineBreak
    return ((before.or after).getD .clip, digit)
  else fail a (.expected "chomping or indentation indicators" next)

/-- The empty lines at the beginning of a block, and the deepest indentation among them and the first line. -/
def leadingBreaks : Nat → List Text → Nat → Reader (List Text × Nat)
  | 0, breaks, deepest => return (breaks, deepest)
  | fuel + 1, breaks, deepest => do
    match ← peek with
    | some c =>
      if c = ' ' then
        forward 1
        let column := (← here).column
        leadingBreaks fuel breaks (max deepest column)
      else if isBreak c then
        let b ← lineBreak
        leadingBreaks fuel (breaks ++ [b]) deepest
      else return (breaks, deepest)
    | none => return (breaks, deepest)

/-- The indentation of a line, as far as it belongs to the block. -/
def skipIndentation (indent : Nat) : Reader Unit := do
  let s ← get
  let spaces := (s.rest.takeWhile fun c => c = .scalar ' ').length
  forward (min spaces (indent - s.mark.column))

/-- The empty lines before the next line of a block. -/
def blockBreaks (indent : Nat) : Nat → List Text → Reader (List Text)
  | 0, breaks => return breaks
  | fuel + 1, breaks => do
    skipIndentation indent
    if (← peek).any isBreak then
      let b ← lineBreak
      blockBreaks indent fuel (breaks ++ [b])
    else return breaks

/-- The lines of a block with what stands between them, the break behind the last one, and the empty lines at the
end. -/
def blockLines (isFolded : Bool) (indent : Nat) : Nat → Text → List Text → Reader (Text × Text × List Text)
  | 0, read, breaks => return (read, [], breaks)
  | fuel + 1, read, breaks => do
    let startsWithBlank := (← peek).any fun c => c.isOneOf [' ', '\t']
    let line ← takeWhile fun c => !isBreak c
    let read := read ++ breaks.flatten ++ line
    let b ← lineBreak
    let breaks ← blockBreaks indent ((← rest).length + 1) []
    let next ← peek
    if (← here).column = indent && next.isSome then
      let foldsHere := isFolded && b = ("\n" : Text) && !startsWithBlank && !next.any fun c => c.isOneOf [' ', '\t']
      let between : Text := if foldsHere then (if breaks.isEmpty then " " else []) else b
      blockLines isFolded indent fuel (read ++ between) breaks
    else return (read, b, breaks)

def blockScalar (isFolded : Bool) : Reader Text := do
  let a ← activity "while scanning a block scalar"
  forward 1
  let (chomping, digit) ← blockHeader a
  let least := (max 1 ((← get).indent + 1)).toNat
  let (breaks, indent) ←
    match digit with
    | none => do
      let (breaks, deepest) ← leadingBreaks (← rest).length [] 0
      pure (breaks, max least deepest)
    | some n => do
      let indent := least + n - 1
      let breaks ← blockBreaks indent ((← rest).length + 1) []
      pure (breaks, indent)
  let (content, last, breaks) ←
    if (← here).column = indent && (← peek).isSome then
      blockLines isFolded indent ((← rest).length + 1) [] breaks
    else pure ([], [], breaks)
  match chomping with
  | .strip => return content
  | .clip => return content ++ last
  | .keep => return content ++ last ++ breaks.flatten

end Yaml

end Invocation
