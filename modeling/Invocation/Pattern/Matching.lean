import Invocation.Pattern.Basic
import Invocation.Text.Blank
import Invocation.Text.Case
import Invocation.Text.Word

/-!
# Matching

A node is tried at a place of a text and hands every place where it can end to what comes after it, the preferred
places first. The first success of everything that follows decides.
-/

namespace Invocation

namespace Pattern

/-! ## Single code points -/

def Kind.holds (ascii : Bool) (k : Kind) (c : CodePoint) : Bool :=
  let isIn := match k with
    | word => c.isWord
    | digit => c.isDecimalDigit
    | blank => c.isBlank
  if ascii then
    match k with
    | blank => c.isOneOf [' ', '\t', '\n', '\r', '\x0b', '\x0c']
    | _ => c.toNat < 0x80 && isIn
  else isIn

/-- The code point itself, or its lower case where case does not count. -/
def folded (s : Settings) (c : CodePoint) : CodePoint :=
  if s.ignoreCase then (if s.ascii then c.asciiLower else c.lower) else c

/-- Whether two code points count as one letter. -/
def sameUnder (s : Settings) (c d : CodePoint) : Bool :=
  if !s.ignoreCase then c = d
  else if s.ascii then c.asciiLower = d.asciiLower
  else c.sameLetter d

/-- The code points that may stand for `c` in a range. -/
def spellingsUnder (s : Settings) (c : CodePoint) : List CodePoint :=
  if !s.ignoreCase then [c]
  else if s.ascii then
    if c.isAsciiLetter then
      [c.asciiLower, .scalar (Char.ofNat (c.asciiLower.toNat - 32))]
    else [c]
  else c.spellings

def Member.holds (s : Settings) (c : CodePoint) : Member → Bool
  | point d => sameUnder s d c
  | range low high => (spellingsUnder s c).any fun d => low ≤ d.toNat && d.toNat ≤ high
  | kind k negated =>
    k.holds s.ascii (folded s c) != negated

/-! ## Places -/

/-- A place in a text: what stands before it, the nearest first, what follows, and what the groups have taken. -/
structure Place where
  before : Text
  rest : Text
  captures : List (Nat × Text)

/-- What is tried after something has matched. -/
abbrev Continuation := Place → Option Place

abbrev Trial := Place → Continuation → Option Place

def Anchor.holds (s : Settings) (a : Anchor) (p : Place) : Bool :=
  let atBreak := p.rest.head? == some (.scalar '\n')
  let isWord := fun (c : Option CodePoint) => (c.map (Kind.holds s.ascii .word)).getD false
  let betweenWords := isWord p.before.head? != isWord p.rest.head?
  match a with
  | textStart => p.before.isEmpty
  | lineStart => p.before.isEmpty || (s.multiline && p.before.head? == some (.scalar '\n'))
  | textEnd => p.rest.isEmpty
  | lineEnd => p.rest.isEmpty || (atBreak && (s.multiline || p.rest.length == 1))
  | boundary => betweenWords
  | noBoundary => !betweenWords && !(p.before.isEmpty && p.rest.isEmpty)

def takeOne (holds : CodePoint → Bool) : Trial := fun p next =>
  match p.rest with
  | [] => none
  | c :: r => if holds c then next ⟨c :: p.before, r, p.captures⟩ else none

/-- The text `t` once more. -/
def takeText (s : Settings) (t : Text) : Trial := fun p next =>
  let piece := p.rest.take t.length
  if piece.length = t.length ∧ piece.map (folded s) = t.map (folded s) then
    next ⟨piece.reverse ++ p.before, p.rest.drop t.length, p.captures⟩
  else none

/-- The place that lies `width` code points back. -/
def Place.back? (p : Place) (width : Nat) : Option Place :=
  if p.before.length < width then none
  else some { p with before := p.before.drop width, rest := (p.before.take width).reverse ++ p.rest }

/-- The text between a place and a later one. -/
def Place.until (p q : Place) : Text := (q.before.take (p.rest.length - q.rest.length)).reverse

/-! ## Repetition -/

/-- At least `least` and at most `greatest` turns of `turn`, `count` of which are done. Beyond the least number a turn
is only begun where the one before it has moved on; `last` is where that one began. -/
def repeatTurns (turn : Trial) (least : Nat) (greatest : Option Nat) (greed : Greed) (next : Continuation) :
    Nat → Nat → Option Nat → Place → Option Place
  | 0, _, _, p => next p
  | fuel + 1, count, last, p =>
    let mayGoOn := (greatest.all fun n => decide (count < n)) && last != some p.rest.length
    if count < least then turn p (repeatTurns turn least greatest greed next fuel (count + 1) last)
    else
      let again := fun (_ : Unit) =>
        if mayGoOn then turn p (repeatTurns turn least greatest greed next fuel (count + 1) (some p.rest.length))
        else none
      match greed with
      | .lazy => (next p).orElse again
      | _ => (again ()).orElse fun _ => next p

/-- A trial that keeps the first way in which it succeeds. -/
def once (turn : Trial) : Trial := fun p next => (turn p some).bind next

def repeated (turn : Trial) (least : Nat) (greatest : Option Nat) (greed : Greed) : Trial := fun p next =>
  let turns := fun (greed : Greed) (next : Continuation) (turn : Trial) =>
    repeatTurns turn least greatest greed next (least + p.rest.length + 2) 0 none p
  match greed with
  | .possessive => (turns .greedy some (once turn)).bind next
  | _ => turns greed next turn

/-! ## Nodes -/

def Node.run (s : Settings) : Node → Trial
  | empty => fun p next => next p
  | oneOf negated members => takeOne fun c => (members.any (Member.holds s c)) != negated
  | any => takeOne fun c => s.dotAll || c ≠ .scalar '\n'
  | anchor a => fun p next => if a.holds s p then next p else none
  | sequence a b => fun p next => a.run s p fun q => b.run s q next
  | choice a b => fun p next => (a.run s p next).orElse fun _ => b.run s p next
  | repeated least greatest greed body => Pattern.repeated (body.run s) least greatest greed
  | group none change body => body.run (s.change change)
  | group (some n) _ body => fun p next =>
    body.run s p fun q => next { q with captures := (n, p.until q) :: q.captures }
  | atomic body => once (body.run s)
  | look behind negative body => fun p next =>
    let found := (p.back? ((behind.map Width.least).getD 0)).bind fun q => body.run s q some
    match found, negative with
    | some q, false => next { p with captures := q.captures }
    | none, true => next p
    | _, _ => none
  | reference n => fun p next => (p.captures.lookup n).bind fun t => takeText s t p next
  | conditional n yes no => fun p next =>
    if (p.captures.lookup n).isSome then yes.run s p next else no.run s p next

/-- Whether the node describes some beginning of the text. -/
def Node.matchesStart (s : Settings) (n : Node) (t : Text) : Bool := (n.run s ⟨[], t, []⟩ some).isSome

end Pattern

end Invocation
