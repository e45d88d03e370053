import Invocation.Yaml.Cursor

/-!
# Tags, anchors and directives

The names that a document gives to kinds of nodes and to nodes, and the lines that stand before a document.
-/

namespace Invocation

namespace Yaml

open Reader

def isNameCharacter (c : CodePoint) : Bool := c.isAsciiAlphanumeric || c.isOneOf ['-', '_']

def isUriCharacter (c : CodePoint) : Bool :=
  c.isAsciiAlphanumeric
    || c.isOneOf ['-', ';', '/', '?', ':', '@', '&', '=', '+', '$', ',', '_', '.', '!', '~', '*', '\'', '(', ')',
      '[', ']']

/-! ## Anchors and aliases -/

/-- The name behind an ampersand or an asterisk. -/
def anchorName (what : String) : Reader Text := do
  let a ← activity ("while scanning an " ++ what)
  forward 1
  let name ← takeWhile isNameCharacter
  let next ← peek
  let mayFollow := isBlankOrEnd next || next.any fun c => c.isOneOf ['?', ':', ',', ']', '\x7d', '%', '@', '\x60']
  if name.isEmpty || !mayFollow then fail a (.expected "alphabetic or numeric character" next)
  return name

/-! ## Tags -/

/-- The bytes that percent signs and pairs of digits name. -/
def uriBytes (a : Activity) : Nat → List UInt8 → Reader (List UInt8)
  | 0, bytes => return bytes
  | fuel + 1, bytes => do
    if (← peek) ≠ some (.scalar '%') then return bytes
    forward 1
    let digits := ((← rest).take 2).takeWhile CodePoint.isHexDigit
    if digits.length < 2 then
      fail a (.expected "URI escape sequence of 2 hexadecimal numbers" (← peekAt digits.length))
    forward 2
    uriBytes a fuel (bytes ++ [UInt8.ofNat ((Text.toNat? 16 digits).getD 0)])

/-- What the following percent signs stand for. -/
def uriEscapes (a : Activity) : Reader Text := do
  let start ← here
  let bytes ← uriBytes a ((← rest).length + 1) []
  match Utf8.decode bytes with
  | .ok t => return t
  | .error e => throw (.form (some a) (.badUriBytes e) (some start))

def uriParts (a : Activity) : Nat → Text → Reader Text
  | 0, read => return read
  | fuel + 1, read => do
    let part ← takeWhile isUriCharacter
    let read := read ++ part
    if (← peek) = some (.scalar '%') then
      let escaped ← uriEscapes a
      uriParts a fuel (read ++ escaped)
    else return read

/-- A name made of characters of addresses; `what` is what it is part of. -/
def uri (what : String) (start : Mark) : Reader Text := do
  let before := (← here).index
  let t ← uriParts ⟨"while scanning a " ++ what, some start⟩ ((← rest).length + 1) []
  if (← here).index = before then
    fail (some ⟨"while parsing a " ++ what, some start⟩) (.expected "URI" (← peek))
  return t

/-- A handle between two exclamation marks, or one exclamation mark before a space. -/
def handle (what : String) (start : Mark) : Reader Text := do
  let a : Activity := ⟨"while scanning a " ++ what, some start⟩
  let first ← peek
  if first ≠ some (.scalar '!') then fail a (.expected "'!'" first)
  if (← peekAt 1) = some (.scalar ' ') then
    forward 1
    return "!"
  forward 1
  let name ← takeWhile isNameCharacter
  let last ← peek
  if last ≠ some (.scalar '!') then fail a (.expected "'!'" last)
  forward 1
  return "!" ++ name ++ "!"

/-- The tag of a node. -/
def writtenTag : Reader WrittenTag := do
  let start ← here
  let behind := (← rest).drop 1
  let tag ←
    match behind with
    | .scalar '<' :: _ => do
      forward 2
      let suffix ← uri "tag" start
      let next ← peek
      if next ≠ some (.scalar '>') then fail (some ⟨"while parsing a tag", some start⟩) (.expected "'>'" next)
      forward 1
      pure ⟨none, suffix⟩
    | _ =>
      if isBlankOrEnd behind.head? then do
        forward 1
        pure ⟨none, "!"⟩
      else if (behind.takeWhile fun c => !isSpaceOrEnd (some c)).contains (.scalar '!') then do
        let h ← handle "tag" start
        let suffix ← uri "tag" start
        pure ⟨some h, suffix⟩
      else do
        forward 1
        let suffix ← uri "tag" start
        pure ⟨some "!", suffix⟩
  let next ← peek
  if !isSpaceOrEnd next then fail (some ⟨"while scanning a tag", some start⟩) (.expected "' '" next)
  return tag

/-! ## Directives -/

def directiveNumber (a : Activity) : Reader Nat := do
  let digits ← takeWhile CodePoint.isAsciiDigit
  if digits.isEmpty then fail a (.expected "a digit" (← peek))
  if greatestDigitCount < digits.length then throw (.value (.digitLimit digits.length))
  return (Text.toNat? 10 digits).getD 0

def versionDirective (a : Activity) : Reader Symbol := do
  skipSpaces
  let major ← directiveNumber a
  let next ← peek
  if next ≠ some (.scalar '.') then fail a (.expected "a digit or '.'" next)
  forward 1
  let minor ← directiveNumber a
  let next ← peek
  if !isSpaceOrEnd next then fail a (.expected "a digit or ' '" next)
  return .version major minor

def handleDirective (a : Activity) (start : Mark) : Reader Symbol := do
  skipSpaces
  let h ← handle "directive" start
  let next ← peek
  if next ≠ some (.scalar ' ') then fail a (.expected "' '" next)
  skipSpaces
  let lead ← uri "directive" start
  let next ← peek
  if !isSpaceOrEnd next then fail a (.expected "' '" next)
  return .tagHandle h lead

/-- The line of a directive; only a comment may follow what it says. -/
def directive : Reader Symbol := do
  let start ← here
  let a : Activity := ⟨"while scanning a directive", some start⟩
  forward 1
  let name ← takeWhile isNameCharacter
  let next ← peek
  if name.isEmpty || !isSpaceOrEnd next then fail a (.expected "alphabetic or numeric character" next)
  let symbol ←
    if name = ("YAML" : Text) then versionDirective a
    else if name = ("TAG" : Text) then handleDirective a start
    else do
      skipLine
      pure .otherDirective
  skipSpaces
  skipComment
  let next ← peek
  if !isEnd next then fail a (.expected "a comment or a line break" next)
  let _ ← lineBreak
  return symbol

end Yaml

end Invocation
