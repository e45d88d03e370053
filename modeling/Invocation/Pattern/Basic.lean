import Invocation.Text.Integer
import Invocation.Text.Quoted

/-!
# Patterns

A pattern describes texts. It is made of single code points, places between code points, repetitions, choices and
groups; what a group has taken may be asked for again. Settings say whether case counts and what lines are.
-/

namespace Invocation

namespace Pattern

/-! ## Settings -/

structure Settings where
  ignoreCase : Bool := false
  multiline : Bool := false
  dotAll : Bool := false
  verbose : Bool := false
  ascii : Bool := false
deriving DecidableEq, Inhabited

/-- The settings after the one named by `letter` has been turned on or off. -/
def Settings.turn (s : Settings) (letter : Char) (on : Bool) : Settings :=
  match letter with
  | 'i' => { s with ignoreCase := on }
  | 'm' => { s with multiline := on }
  | 's' => { s with dotAll := on }
  | 'x' => { s with verbose := on }
  | 'a' => { s with ascii := on }
  | 'u' => { s with ascii := !on }
  | _ => s

/-- Letters of settings to turn on and of settings to turn off. -/
structure Change where
  added : List Char
  removed : List Char
deriving DecidableEq, Inhabited

def Change.none : Change := ⟨[], []⟩

def Settings.change (s : Settings) (c : Change) : Settings :=
  c.removed.foldl (fun s letter => s.turn letter false) (c.added.foldl (fun s letter => s.turn letter true) s)

/-! ## Widths -/

/-- The least and, if there is one, the greatest number of code points that something takes. -/
structure Width where
  least : Nat
  greatest : Option Nat
deriving DecidableEq

namespace Width

def exactly (n : Nat) : Width := ⟨n, some n⟩

def add (a b : Width) : Width :=
  ⟨a.least + b.least, a.greatest.bind fun m => b.greatest.map fun n => m + n⟩

def either (a b : Width) : Width :=
  ⟨min a.least b.least, a.greatest.bind fun m => b.greatest.map fun n => max m n⟩

def times (w : Width) (least : Nat) (greatest : Option Nat) : Width :=
  { least := w.least * least
    greatest :=
      if w.greatest = some 0 ∨ greatest = some 0 then some 0 else w.greatest.bind fun m => greatest.map fun n => m * n }

end Width

/-! ## Nodes -/

inductive Kind where
  | word
  | digit
  | blank
deriving DecidableEq

inductive Member where
  | point (c : CodePoint)
  | range (low high : Nat)
  | kind (k : Kind) (negated : Bool)
deriving DecidableEq

inductive Anchor where
  | lineStart
  | lineEnd
  | textStart
  | textEnd
  | boundary
  | noBoundary
deriving DecidableEq

inductive Greed where
  | greedy
  | lazy
  | possessive
deriving DecidableEq

def Greed.operator : Greed → String
  | greedy => "MAX_REPEAT"
  | lazy => "MIN_REPEAT"
  | possessive => "POSSESSIVE_REPEAT"

/-- A look behind the place carries the width of what it looks for. -/
inductive Node where
  | empty
  | oneOf (negated : Bool) (members : List Member)
  | any
  | anchor (a : Anchor)
  | sequence (first second : Node)
  | choice (first second : Node)
  | repeated (least : Nat) (greatest : Option Nat) (greed : Greed) (body : Node)
  | group (index : Option Nat) (change : Change) (body : Node)
  | atomic (body : Node)
  | look (behind : Option Width) (negative : Bool) (body : Node)
  | reference (index : Nat)
  | conditional (index : Nat) (yes no : Node)

namespace Node

def point (c : CodePoint) : Node := oneOf false [.point c]

def ofList (nodes : List Node) : Node := nodes.foldr sequence empty

end Node

/-- The width of a node, given the widths of the groups. -/
def Node.width (groups : Nat → Width) : Node → Width
  | empty | anchor _ | look _ _ _ => .exactly 0
  | oneOf _ _ | any => .exactly 1
  | sequence a b => (a.width groups).add (b.width groups)
  | choice a b => (a.width groups).either (b.width groups)
  | repeated least greatest _ body => (body.width groups).times least greatest
  | group _ _ body | atomic body => body.width groups
  | reference n => groups n
  | conditional _ yes no => (yes.width groups).either (no.width groups)

/-! ## Faults -/

inductive Reason where
  | escapeAtEnd
  | badEscape (escape : Text)
  | incompleteEscape (escape : Text)
  | octalTooLarge (escape : Text)
  | unknownCharacter (name : Text)
  | missing (what : String)
  | unterminated (close : String)
  | unterminatedSet
  | unterminatedGroup
  | unterminatedComment
  | badRange (low high : Text)
  | repeatBounds
  | nothingToRepeat
  | multipleRepeat
  | unexpectedEnd
  | badName (name : Text)
  | unknownGroup (name : Text)
  | redefinedGroup (name : Text) (index old : Nat)
  | openGroup
  | ownLookbehind
  | invalidReference (index : Nat)
  | badGroupNumber
  | tooManyBranches
  | unknownExtension (lead : Text)
  | lateFlags
  | unknownFlag
  | badFlags (why : String)
  | unbalanced
  | lookbehindWidth
  | lookbehindTooWide
  | repeatedTemplate (greed : Greed)
deriving DecidableEq

def Reason.message : Reason → Text
  | escapeAtEnd => "bad escape (end of pattern)"
  | badEscape escape => "bad escape " ++ escape
  | incompleteEscape escape => "incomplete escape " ++ escape
  | octalTooLarge escape => "octal escape value " ++ escape ++ " outside of range 0-0o377"
  | unknownCharacter name => "undefined character name " ++ name.quoted
  | missing what => "missing " ++ what
  | unterminated close => "missing " ++ close ++ ", unterminated name"
  | unterminatedSet => "unterminated character set"
  | unterminatedGroup => "missing ), unterminated subpattern"
  | unterminatedComment => "missing ), unterminated comment"
  | badRange low high => "bad character range " ++ low ++ "-" ++ high
  | repeatBounds => "min repeat greater than max repeat"
  | nothingToRepeat => "nothing to repeat"
  | multipleRepeat => "multiple repeat"
  | unexpectedEnd => "unexpected end of pattern"
  | badName name => "bad character in group name " ++ name.quoted
  | unknownGroup name => "unknown group name " ++ name.quoted
  | redefinedGroup name index old =>
    "redefinition of group name " ++ name.quoted ++ " as group " ++ Text.ofNat index ++ "; was group " ++ Text.ofNat old
  | openGroup => "cannot refer to an open group"
  | ownLookbehind => "cannot refer to group defined in the same lookbehind subpattern"
  | invalidReference index => "invalid group reference " ++ Text.ofNat index
  | badGroupNumber => "bad group number"
  | tooManyBranches => "conditional backref with more than two branches"
  | unknownExtension lead => "unknown extension ?" ++ lead
  | lateFlags => "global flags not at the start of the expression"
  | unknownFlag => "unknown flag"
  | badFlags why => "bad inline flags: " ++ why
  | unbalanced => "unbalanced parenthesis"
  | lookbehindWidth => "look-behind requires fixed-width pattern"
  | lookbehindTooWide => "looks too much behind"
  | repeatedTemplate greed => "internal: unsupported template operator " ++ greed.operator

/-- A number that cannot be held. -/
inductive Overflow where
  | repetition
  | codePoint
deriving DecidableEq

def Overflow.message : Overflow → Text
  | repetition => "the repetition number is too large"
  | codePoint => "Python int too large to convert to C int"

/-- What is wrong with a pattern: its form, perhaps with a position, settings that exclude each other, or a number. -/
inductive Fault where
  | form (reason : Reason) (position : Option Nat)
  | incompatibleSettings
  | longNumber (digits : Nat)
  | overflow (o : Overflow)
deriving DecidableEq

/-- A place in a pattern. Line and column are named too if the pattern has more than one line. -/
def placeText (source : Text) (position : Nat) : Text :=
  let before := (source.take position).reverse
  let line := (before.filter fun c => c = .scalar '\n').length + 1
  let column := (before.takeWhile fun c => c ≠ .scalar '\n').length + 1
  " at position " ++ Text.ofNat position
    ++ (if source.contains (.scalar '\n') then
          (" (line " ++ Text.ofNat line ++ ", column " ++ Text.ofNat column ++ ")" : Text)
        else [])

def Fault.message (f : Fault) (source : Text) : Text :=
  match f with
  | form reason position => reason.message ++ (position.map (placeText source)).getD []
  | incompatibleSettings => "ASCII and UNICODE flags are incompatible"
  | longNumber digits => longIntegerMessage digits
  | overflow o => o.message

/-! ## Patterns that cannot be run -/

/-- How far back a pattern can look. -/
def greatestLookbehind : Nat := 4294967295

/-- Why a pattern of the right form cannot be run: it looks behind for something that has no certain width, or it
repeats something although it is a template. The first such part counts. -/
def Node.unsuited? (template : Bool) : Node → Option Reason
  | empty | oneOf _ _ | any | anchor _ | reference _ => none
  | sequence a b | choice a b | conditional _ a b => (a.unsuited? template).or (b.unsuited? template)
  | repeated _ _ greed body => if template then some (.repeatedTemplate greed) else body.unsuited? template
  | group _ _ body | atomic body | look none _ body => body.unsuited? template
  | look (some width) _ body =>
    if greatestLookbehind < width.least then some .lookbehindTooWide
    else if width.greatest ≠ some width.least then some .lookbehindWidth
    else body.unsuited? template

end Pattern

end Invocation
