import Invocation.Pattern.Basic
import Invocation.Text.Identifier
import Invocation.Text.Names

/-!
# Reading patterns

A pattern is read from the left, one token at a time; the first thing that cannot be read is reported with its
position. A token is a code point, together with the backslash before it if there is one.
-/

namespace Invocation

namespace Pattern

/-! ## Tokens -/

/-- A backslash at the very end of a pattern has nothing to protect. -/
inductive Token where
  | plain (c : CodePoint)
  | escape (c : CodePoint)
  | dangling
deriving DecidableEq

def tokens : Text → List Token
  | [] => []
  | [.scalar '\\'] => [.dangling]
  | .scalar '\\' :: c :: r => .escape c :: tokens r
  | c :: r => .plain c :: tokens r

def Token.text : Token → Text
  | plain c => [c]
  | escape c => ['\\', c]
  | dangling => ['\\']

/-- What is left to read and what is known of the settings and the groups. A group that is still open has no width. -/
structure State where
  rest : List Token
  position : Nat
  settings : Settings
  /-- The letters of the settings for the whole pattern. -/
  letters : List Char
  widths : List (Option Width)
  names : List (Text × Nat)
  lookbehind : Option Nat
  conditions : List (Nat × Nat)

abbrev Reader := StateT State (Except Fault)

namespace Reader

/-- Fails `back` code points before the next token. -/
def failAt {α : Type} (back : Nat) (r : Reason) : Reader α := do
  throw (.form r (some ((← get).position - back)))

def failAtPosition {α : Type} (position : Nat) (r : Reason) : Reader α := throw (.form r (some position))

/-- The next token becomes visible; a backslash that protects nothing is noticed there. -/
def look : Reader Unit := do
  match (← get).rest with
  | .dangling :: _ => failAt 0 .escapeAtEnd
  | _ => return

/-- The next token is taken. -/
def next? : Reader (Option Token) := do
  match (← get).rest with
  | [] => return none
  | t :: r =>
    modify fun s => { s with rest := r, position := s.position + t.text.length }
    look
    return some t

def peek : Reader (Option Token) := do return (← get).rest.head?

/-- Whether the next token is `c`, which is taken if it is. -/
def accept (c : Char) : Reader Bool := do
  if (← peek) = some (.plain (.scalar c)) then
    let _ ← next?
    return true
  else return false

/-- Up to `count` single code points that satisfy `p`. -/
def upTo (p : CodePoint → Bool) : Nat → Reader Text
  | 0 => return []
  | count + 1 => do
    match ← peek with
    | some (.plain c) =>
      if p c then
        let _ ← next?
        return c :: (← upTo p count)
      else return []
    | _ => return []

/-- All following code points that satisfy `p`. -/
def all (p : CodePoint → Bool) : Reader Text := do upTo p (← get).rest.length

/-- The text up to a closing character, which is taken too; `what` says what the text is. -/
def name (close : Char) (what : String) : Reader Text := do
  let rec go (read : Text) : Nat → Reader Text
    | 0 => failAt 0 (.missing what)
    | fuel + 1 => do
      match ← next? with
      | none => if read.isEmpty then failAt 0 (.missing what) else failAt read.length (.unterminated close.toString)
      | some t =>
        if t = .plain (.scalar close) then
          if read.isEmpty then failAt 1 (.missing what) else return read
        else go (read ++ t.text) fuel
  go [] ((← get).rest.length + 1)

end Reader

open Reader

/-! ## Escapes -/

/-- What a letter behind a backslash stands for everywhere. -/
def control? (c : CodePoint) : Option CodePoint :=
  match c with
  | .scalar 'a' => some '\x07'
  | .scalar 'f' => some '\x0c'
  | .scalar 'n' => some '\n'
  | .scalar 'r' => some '\r'
  | .scalar 't' => some '\t'
  | .scalar 'v' => some '\x0b'
  | .scalar '\\' => some '\\'
  | _ => none

def kind? (c : CodePoint) : Option Member :=
  match c with
  | .scalar 'd' => some (.kind .digit false)
  | .scalar 'D' => some (.kind .digit true)
  | .scalar 's' => some (.kind .blank false)
  | .scalar 'S' => some (.kind .blank true)
  | .scalar 'w' => some (.kind .word false)
  | .scalar 'W' => some (.kind .word true)
  | _ => none

def isOctal (c : CodePoint) : Bool := c.isBetween '0' '7'

/-- The code point of an escape with exactly `count` hexadecimal digits. -/
def hexadecimal (c : CodePoint) (count : Nat) : Reader CodePoint := do
  let digits ← upTo CodePoint.isHexDigit count
  let escape : Text := '\\' :: c :: digits
  if digits.length ≠ count then failAt escape.length (.incompleteEscape escape)
  else
    let n := (Text.toNat? 16 digits).getD 0
    match CodePoint.ofNat? n with
    | some c => return c
    | none => if n < twoTo 31 then failAt escape.length (.badEscape escape) else throw (.overflow .codePoint)

def octal (digits : Text) : Reader CodePoint := do
  let n := (Text.toNat? 8 digits).getD 0
  let escape : Text := .scalar '\\' :: digits
  if n > 0o377 then failAt escape.length (.octalTooLarge escape) else return (CodePoint.ofNat? n).getD default

/-- The code point with a name in braces. -/
def namedPoint : Reader CodePoint := do
  if ← accept '\x7b' then
    let name ← name '\x7d' "character name"
    if name.hasSurrogate then failAt 2 (.badEscape ['\\', 'N'])
    match CodePoint.ofName? name with
    | some c => return c
    | none => failAt (name.length + 4) (.unknownCharacter name)
  else failAt 0 (.missing "\x7b")

/-- The code point of an escape that is neither a set nor a place; single digits are read elsewhere. -/
def escapedPoint (c : CodePoint) : Reader CodePoint := do
  match control? c with
  | some c => return c
  | none =>
    if c = 'x' then hexadecimal c 2
    else if c = 'u' then hexadecimal c 4
    else if c = 'U' then hexadecimal c 8
    else if c = 'N' then namedPoint
    else if c.isAsciiAlphanumeric then failAt 2 (.badEscape ['\\', c])
    else return c

/-- An escape inside a set. -/
def memberEscape (c : CodePoint) : Reader Member := do
  match kind? c with
  | some m => return m
  | none =>
    if c = 'b' then return .point '\x08'
    else if isOctal c then
      let more ← upTo isOctal 2
      return .point (← octal (c :: more))
    else return .point (← escapedPoint c)

/-- A reference to a group must not lead into a group that is open. -/
def checkReference (index : Nat) (back : Nat) : Reader Unit := do
  let s ← get
  let isClosed := (s.widths.getD index none).isSome
  if !isClosed then failAt back .openGroup
  match s.lookbehind with
  | some count => if count ≤ index then failAt 0 .ownLookbehind
  | none => return

/-- In a look behind a group that is referred to has to be closed and to stand outside of it. -/
def checkLookbehind (index : Nat) : Reader Unit := do
  if (← get).lookbehind.isSome then checkReference index 0

/-- Digits behind a backslash are an octal number or the number of a group. -/
def numberEscape (c : CodePoint) : Reader Node := do
  if c = '0' then
    let more ← upTo isOctal 2
    return .point (← octal (c :: more))
  else
    let second ← upTo CodePoint.isAsciiDigit 1
    let third ← if isOctal c && !second.isEmpty && second.all isOctal then upTo isOctal 1 else pure []
    let digits := c :: second ++ third
    if third.isEmpty then
      let index := (Text.toNat? 10 digits).getD 0
      if index < (← get).widths.length then
        checkReference index (digits.length + 1)
        return .reference index
      else failAt digits.length (.invalidReference index)
    else return .point (← octal digits)

/-- An escape outside of sets. -/
def nodeEscape (c : CodePoint) : Reader Node := do
  match kind? c with
  | some m => return .oneOf false [m]
  | none =>
    if c = 'A' then return .anchor .textStart
    else if c = 'Z' then return .anchor .textEnd
    else if c = 'b' then return .anchor .boundary
    else if c = 'B' then return .anchor .noBoundary
    else if c.isAsciiDigit then numberEscape c
    else return .point (← escapedPoint c)

/-! ## Sets -/

/-- One end of a range, or a member on its own. -/
def memberOf : Token → Reader Member
  | .plain c => return .point c
  | .escape c => memberEscape c
  | .dangling => failAt 0 .escapeAtEnd

/-- The members of a set up to the closing bracket; `start` is where the set began. A closing bracket that comes first
is a member. -/
def setMembers (start : Nat) : Nat → List Member → Reader (List Member)
  | 0, _ => failAtPosition start .unterminatedSet
  | fuel + 1, members => do
    match ← next? with
    | none => failAtPosition start .unterminatedSet
    | some this =>
      if this = .plain ']' ∧ !members.isEmpty then return members
      let first ← memberOf this
      if ← accept '-' then
        match ← next? with
        | none => failAtPosition start .unterminatedSet
        | some that =>
          if that = .plain ']' then return members ++ [first, .point '-']
          let last ← memberOf that
          match first, last with
          | .point low, .point high =>
            if high.toNat < low.toNat then
              failAt (this.text.length + 1 + that.text.length) (.badRange this.text that.text)
            else setMembers start fuel (members ++ [.range low.toNat high.toNat])
          | _, _ => failAt (this.text.length + 1 + that.text.length) (.badRange this.text that.text)
      else setMembers start fuel (members ++ [first])

/-- A set whose opening bracket has been taken. -/
def bracket : Reader Node := do
  let start := (← get).position - 1
  let negated ← accept '^'
  return .oneOf negated (← setMembers start ((← get).rest.length + 1) [])

/-! ## Repetitions -/

/-- Repetitions from this number on cannot be counted. -/
def leastUncountable : Nat := 4294967295

/-- The number that a bound is, if it is there. -/
def bound (digits : Text) : Reader (Option Nat) := do
  if greatestDigitCount < digits.length then throw (.longNumber digits.length)
  let n := Text.toNat? 10 digits
  if n.any fun n => decide (leastUncountable ≤ n) then throw (.overflow .repetition)
  return n

/-- The bounds in braces that follow an opening brace. Anything else leaves the brace to itself. -/
def bounds? : Reader (Option (Nat × Option Nat)) := do
  let start ← get
  if (← peek) = some (.plain '\x7d') then return none
  let low ← all CodePoint.isAsciiDigit
  let high ← if ← accept ',' then all CodePoint.isAsciiDigit else pure low
  if ← accept '\x7d' then
    let least := (← bound low).getD 0
    let greatest ← bound high
    if greatest.any fun n => decide (n < least) then failAtPosition start.position .repeatBounds
    return some (least, greatest)
  else
    set start
    return none

def isRepeated : Node → Bool
  | .repeated _ _ _ _ => true
  | _ => false

def isAnchor : Node → Bool
  | .anchor _ => true
  | _ => false

/-- A question mark or a plus behind a repetition. -/
def greed : Reader Greed := do
  if ← accept '?' then return .lazy
  if ← accept '+' then return .possessive
  return .greedy

/-- The nodes, the last first, with the last of them repeated; `start` is where the repetition is written. -/
def repeatLast (start least : Nat) (greatest : Option Nat) : List Node → Reader (List Node)
  | [] => failAtPosition start .nothingToRepeat
  | last :: nodes => do
    if isAnchor last then failAtPosition start .nothingToRepeat
    if isRepeated last then failAtPosition start .multipleRepeat
    return .repeated least greatest (← greed) last :: nodes

/-! ## Inline settings -/

def isSettingLetter (c : CodePoint) : Bool := c.isOneOf ['i', 'L', 'm', 's', 'x', 'a', 't', 'u']

/-- The letters to turn on that begin with `letter`, and the character that ends them. -/
def addedLetters : Nat → Char → List Char → Reader (List Char × Char)
  | 0, _, _ => failAt 0 .unexpectedEnd
  | fuel + 1, letter, letters => do
    if letter = 'L' then failAt 0 (.badFlags "cannot use 'L' flag with a str pattern")
    let letters := letters ++ [letter]
    if letters.contains 'a' ∧ letters.contains 'u' then
      failAt 0 (.badFlags "flags 'a', 'u' and 'L' are incompatible")
    match ← next? with
    | none => failAt 0 (.missing "-, : or )")
    | some (.plain (.scalar c)) =>
      if c = ')' ∨ c = '-' ∨ c = ':' then return (letters, c)
      else if isSettingLetter c then addedLetters fuel c letters
      else if CodePoint.isLetter c then failAt 1 .unknownFlag
      else failAt 1 (.missing "-, : or )")
    | some t => failAt t.text.length (.missing "-, : or )")

/-- The letters to turn off, up to a colon; `what` is what has to come next. -/
def removedLetters : Nat → String → List Char → Reader (List Char)
  | 0, _, _ => failAt 0 .unexpectedEnd
  | fuel + 1, what, letters => do
    match ← next? with
    | none => failAt 0 (.missing what)
    | some (.plain (.scalar c)) =>
      if c = ':' ∧ !letters.isEmpty then return letters
      else if isSettingLetter c then
        if c = 'a' ∨ c = 'u' ∨ c = 'L' then failAt 0 (.badFlags "cannot turn off flags 'a', 'u' and 'L'")
        removedLetters fuel ":" (letters ++ [c])
      else if CodePoint.isLetter c then failAt 1 .unknownFlag
      else failAt 1 (.missing what)
    | some t => failAt t.text.length (.missing what)

/-- Settings that begin with `first`: for a group of their own, or for the whole pattern if nothing is returned. -/
def inlineSettings (first : Char) : Reader (Option Change) := do
  let fuel := (← get).rest.length + 1
  let (added, close) ← if first = '-' then pure ([], '-') else addedLetters fuel first []
  if close = ')' then
    modify fun s => { s with settings := s.settings.change ⟨added, []⟩, letters := s.letters ++ added }
    return none
  if added.contains 't' then failAt 1 (.badFlags "cannot turn on global flag")
  let removed ← if close = '-' then removedLetters fuel "flag" [] else pure []
  if removed.contains 't' then failAt 1 (.badFlags "cannot turn off global flag")
  if added.any removed.contains then failAt 1 (.badFlags "flag turned on and off")
  return some ⟨added, removed⟩

/-! ## Groups -/

def checkName (name : Text) : Reader Unit := do
  if !name.isIdentifier then failAt (name.length + 1) (.badName name)

/-- A new group, which stays open until it has a width. -/
def openGroup (name : Option Text) : Reader Nat := do
  let s ← get
  let index := s.widths.length
  match name with
  | none => set { s with widths := s.widths ++ [none] }
  | some n =>
    match s.names.lookup n with
    | some old => failAt (n.length + 1) (.redefinedGroup n index old)
    | none => set { s with widths := s.widths ++ [none], names := s.names ++ [(n, index)] }
  return index

def closeGroup (index : Nat) (body : Node) : Reader Unit :=
  modify fun s =>
    let width := body.width fun n => (s.widths.getD n none).getD (.exactly 0)
    { s with widths := s.widths.set index (some width) }

/-- The closing parenthesis of what began at `start`. -/
def close (start : Nat) : Reader Unit := do
  if !(← accept ')') then failAtPosition start .unterminatedGroup

/-- A reference to a named group. -/
def namedReference : Reader Node := do
  let n ← name ')' "group name"
  checkName n
  match (← get).names.lookup n with
  | none => failAt (n.length + 1) (.unknownGroup n)
  | some index =>
    checkReference index (n.length + 1)
    return .reference index

/-- No pattern has so many groups. -/
def groupLimit : Nat := 1073741823

/-- The group with the number that a condition names. That there is such a group is seen at the end of the pattern. -/
def numberedCondition (n : Text) : Reader Nat := do
  match Text.readInteger 10 n with
  | .ok (.ofNat 0) => failAt (n.length + 1) .badGroupNumber
  | .ok (.ofNat index) =>
    if groupLimit ≤ index then failAt (n.length + 1) (.invalidReference index)
    modify fun s =>
      if (s.conditions.lookup index).isSome then s
      else { s with conditions := s.conditions ++ [(index, s.position - n.length - 1)] }
    return index
  | _ => failAt (n.length + 1) (.badName n)

/-- The group that a condition asks for, by name or by number. -/
def conditionGroup : Reader Nat := do
  let n ← name ')' "group name"
  let index ←
    if n.isIdentifier then
      match (← get).names.lookup n with
      | none => failAt (n.length + 1) (.unknownGroup n)
      | some index => pure index
    else numberedCondition n
  checkLookbehind index
  return index

/-- A comment up to its closing parenthesis. -/
def comment (start : Nat) : Nat → Reader Unit
  | 0 => failAtPosition start .unterminatedComment
  | fuel + 1 => do
    match ← next? with
    | none => failAtPosition start .unterminatedComment
    | some t => if t = .plain ')' then return else comment start fuel

/-- The rest of a line, in a pattern where this is a comment. -/
def lineComment : Nat → Reader Unit
  | 0 => return
  | fuel + 1 => do
    match ← next? with
    | none => return
    | some t => if t = .plain '\n' then return else lineComment fuel

mutual

/-- Branches between bars. Only at the top settings for the whole pattern count from one branch to the next. -/
def branches (fuel : Nat) (verbose top first : Bool) : Reader Node :=
  match fuel with
  | 0 => failAt 0 .unexpectedEnd
  | fuel + 1 => do
    let branch ← pieces fuel verbose (top && first) []
    if ← accept '|' then
      let settings := (← get).settings
      let verbose := if top then settings.verbose else verbose
      return .choice branch (← branches fuel verbose top false)
    else return branch

/-- The nodes of one branch; `nodes` are those read so far, the last first. -/
def pieces (fuel : Nat) (verbose first : Bool) (nodes : List Node) : Reader Node :=
  match fuel with
  | 0 => failAt 0 .unexpectedEnd
  | fuel + 1 => do
    let start := (← get).position
    match ← peek with
    | none => return .ofList nodes.reverse
    | some (.plain (.scalar '|')) | some (.plain (.scalar ')')) => return .ofList nodes.reverse
    | some t =>
      let _ ← next?
      match t with
      | .escape c => pieces fuel verbose first ((← nodeEscape c) :: nodes)
      | .dangling => failAt 0 .escapeAtEnd
      | .plain c =>
        if verbose && c.isOneOf [' ', '\t', '\n', '\r', '\x0b', '\x0c'] then pieces fuel verbose first nodes
        else if verbose && c = '#' then
          lineComment (← get).rest.length
          pieces fuel verbose first nodes
        else if c = '.' then pieces fuel verbose first (.any :: nodes)
        else if c = '^' then pieces fuel verbose first (.anchor .lineStart :: nodes)
        else if c = '$' then pieces fuel verbose first (.anchor .lineEnd :: nodes)
        else if c = '[' then pieces fuel verbose first ((← bracket) :: nodes)
        else if c = '?' then pieces fuel verbose first (← repeatLast start 0 (some 1) nodes)
        else if c = '*' then pieces fuel verbose first (← repeatLast start 0 none nodes)
        else if c = '+' then pieces fuel verbose first (← repeatLast start 1 none nodes)
        else if c = '\x7b' then
          match ← bounds? with
          | some (least, greatest) => pieces fuel verbose first (← repeatLast start least greatest nodes)
          | none => pieces fuel verbose first (.point c :: nodes)
        else if c = '(' then
          match ← parenthesis fuel start verbose with
          | some (.inl node) => pieces fuel verbose first (node :: nodes)
          | some (.inr ()) =>
            if !first || !nodes.isEmpty then failAtPosition start .lateFlags
            let settings := (← get).settings
            pieces fuel settings.verbose first nodes
          | none => pieces fuel verbose first nodes
        else pieces fuel verbose first (.point c :: nodes)

/-- What an opening parenthesis at `start` begins: a node, settings for the whole pattern, or a comment. -/
def parenthesis (fuel start : Nat) (verbose : Bool) : Reader (Option (Node ⊕ Unit)) :=
  match fuel with
  | 0 => failAt 0 .unexpectedEnd
  | fuel + 1 => do
    let group := fun (name : Option Text) => do
      let index ← openGroup name
      let body ← branches fuel verbose false true
      close start
      closeGroup index body
      return some (Sum.inl (.group (some index) .none body))
    let inside := fun (verbose : Bool) => do
      let body ← branches fuel verbose false true
      close start
      return body
    if !(← accept '?') then group none
    else
      match ← next? with
      | none => failAt 0 .unexpectedEnd
      | some (.plain (.scalar 'P')) =>
        if ← accept '<' then
          let n ← name '>' "group name"
          checkName n
          group (some n)
        else
          match ← next? with
          | none => failAt 0 .unexpectedEnd
          | some t =>
            if t = .plain '=' then return some (.inl (← namedReference))
            else failAt (t.text.length + 2) (.unknownExtension (.scalar 'P' :: t.text))
      | some (.plain (.scalar ':')) => return some (.inl (.group none .none (← inside verbose)))
      | some (.plain (.scalar '#')) =>
        comment start ((← get).rest.length + 1)
        return none
      | some (.plain (.scalar '=')) => return some (.inl (.look none false (← inside verbose)))
      | some (.plain (.scalar '!')) => return some (.inl (.look none true (← inside verbose)))
      | some (.plain (.scalar '<')) =>
        match ← next? with
        | none => failAt 0 .unexpectedEnd
        | some t =>
          if t ≠ .plain '=' ∧ t ≠ .plain '!' then
            failAt (t.text.length + 2) (.unknownExtension (.scalar '<' :: t.text))
          let outer := (← get).lookbehind
          if outer.isNone then modify fun s => { s with lookbehind := some s.widths.length }
          let body ← branches fuel verbose false true
          modify fun s => { s with lookbehind := outer }
          close start
          let widths := (← get).widths
          let width := body.width fun n => (widths.getD n none).getD (.exactly 0)
          return some (.inl (.look (some width) (t == .plain '!') body))
      | some (.plain (.scalar '(')) =>
        let index ← conditionGroup
        let yes ← pieces fuel verbose false []
        let no ←
          if ← accept '|' then
            let no ← pieces fuel verbose false []
            if (← peek) = some (.plain '|') then failAt 0 .tooManyBranches
            pure no
          else pure .empty
        close start
        return some (.inl (.conditional index yes no))
      | some (.plain (.scalar '>')) => return some (.inl (.atomic (← inside verbose)))
      | some (.plain (.scalar c)) =>
        if isSettingLetter c || c = '-' then
          match ← inlineSettings c with
          | none => return some (.inr ())
          | some change =>
            let verbose := (verbose || change.added.contains 'x') && !change.removed.contains 'x'
            return some (.inl (.group none change (← inside verbose)))
        else failAt 2 (.unknownExtension [.scalar c])
      | some t => failAt (t.text.length + 1) (.unknownExtension t.text)

end

/-- The whole pattern and the settings that hold for all of it. -/
def whole (source : Text) : Reader (Node × Settings) := do
  look
  let node ← branches (3 * source.length + 3) false true true
  let s ← get
  if s.letters.contains 'a' && s.letters.contains 'u' then throw .incompatibleSettings
  if (← peek).isSome then failAt 0 .unbalanced
  match s.conditions.find? fun e => decide (s.widths.length ≤ e.1) with
  | some (index, position) => failAtPosition position (.invalidReference index)
  | none =>
    match node.unsuited? (s.letters.contains 't') with
    | some reason => throw (.form reason none)
    | none => return (node, s.settings)

end Pattern

/-- A pattern that could be read: its source, and what it describes. -/
structure Pattern where
  source : Text
  node : Pattern.Node
  settings : Pattern.Settings

namespace Pattern

def ofText (source : Text) : Except Fault Pattern :=
  let start : State := ⟨tokens source, 0, {}, [], [some (.exactly 0)], [], none, []⟩
  ((whole source).run' start).map fun (node, settings) => ⟨source, node, settings⟩

end Pattern

end Invocation
