import Invocation.Text.Blank
import Invocation.Text.Grapheme

/-!
# Lines of a terminal

What a terminal shows of a text: no controls that would move the cursor, and spaces up to the next tab stop instead of
a tab. A line that is too wide is broken between words.
-/

namespace Invocation

namespace Terminal

/-! ## Lines -/

/-- Bell, backspace, vertical tab, form feed and carriage return. -/
def movesCursor (c : CodePoint) : Bool := c.isOneOf ['\x07', '\x08', '\x0b', '\x0c', '\r']

def withoutMoves (t : Text) : Text := t.filter fun c => !movesCursor c

/-- What comes before a tab, with spaces up to the next tab stop. Tab stops are eight cells apart. -/
def upToTabStop (piece : Text) : Text :=
  let spaced : Text := piece ++ " "
  spaced ++ Text.fill ((8 - spaced.width % 8) % 8) ' '

def expandTabs (line : Text) : Text :=
  let pieces := line.splitAll fun c => c = .scalar '\t'
  pieces.dropLast.flatMap upToTabStop ++ pieces.getLastD []

def linesOf (t : Text) : List Text := (withoutMoves t).splitAll fun c => c = .scalar '\n'

/-- What is shown of a text whose lines may be wider than the terminal. -/
def onTerminal (t : Text) : Text := Text.joinWith "\n" ((linesOf t).map expandTabs)

/-! ## Breaking lines -/

/-- The words of a line with the blanks behind them; the first one has the blanks before it too. -/
def spacedWords (line : Text) : List Text :=
  match line.splitBy fun a b => !(a.isBlank && !b.isBlank) with
  | first :: second :: r => if first.all CodePoint.isBlank then (first ++ second) :: r else first :: second :: r
  | ws => ws

/-- What happens to a word that is wider than a line: it is broken anywhere, or its end is left out. -/
inductive Overflow where
  | fold
  | ellipsis
deriving DecidableEq

namespace Overflow

/-- A word as it is spread over lines. -/
def spread (o : Overflow) (width : Nat) (word : Text) : List Text :=
  if o = .fold ∧ width < word.trimRight.width then word.pieces width else [word]

/-- A line with nothing beyond the width. -/
def cut (o : Overflow) (width : Nat) (line : Text) : Text :=
  if line.width ≤ width then line
  else
    match o with
    | fold => line.fitted width
    | ellipsis => line.fitted (width - 1) ++ "…"

end Overflow

/-- The lines of a list of words, given the line that has begun. Blanks at the end of a line may exceed the width. -/
def fillLines (o : Overflow) (width : Nat) (line : Text) (column : Nat) : List Text → List Text
  | [] => [line]
  | word :: r =>
    if column + word.trimRight.width ≤ width then fillLines o width (line ++ word) (column + word.width) r
    else
      let parts := o.spread width word
      let last := parts.getLastD []
      (if line.isEmpty then [] else [line]) ++ parts.dropLast ++ fillLines o width last last.width r

/-- The line in the middle; of an odd number of spaces the last one comes behind it. -/
def centered (width : Nat) (line : Text) : Text :=
  (Text.fill ((width - line.width) / 2) ' ' ++ line).fitted width

end Terminal

end Invocation
