import Invocation.Json.Basic
import Invocation.Terminal.Panel
import Invocation.Terminal.Table
import Invocation.Text.Surrogates

/-!
# Consoles

The program prints by way of a console, which knows markup and the terminal. What a console does with a text is all that
the program sees of it: what it writes, or why it does not write anything.
-/

namespace Invocation

namespace Console

/-- Why a text is not printed. -/
inductive Fault where
  /-- It makes no sense as markup. -/
  | markup (message : Text)
  /-- There is something in it that the output cannot take. -/
  | unwritable
deriving DecidableEq

end Console

structure Console where
  /-- A markup text that shows the text as it is. -/
  escape (t : Text) : Text
  /-- A text that is no markup, in lines as wide as they are. -/
  plain (t : Text) : Except Console.Fault Text
  markup (t : Text) : Except Console.Fault Text
  json (j : Json) : Except Console.Fault Text
  /-- A markup text in a frame. -/
  panel (title content : Text) : Except Console.Fault Text
  /-- A table with markup texts in its cells. -/
  table (title : Text) (headings : List Text) (rows : List (List Text)) : Except Console.Fault Text

namespace Terminal

/-- What is written in UTF-8: everything but surrogates that stand alone. -/
def written (t : Text) : Except Console.Fault Text := if t.hasSurrogate then throw .unwritable else return t

def writtenIfRead (r : Except MarkupFault Text) : Except Console.Fault Text := do
  written (← r.mapError fun f => .markup f.message)

/-- A text as it is, but for emoji codes, tabs and what moves the cursor. -/
def plainLine (t : Text) : Except Console.Fault Text := written (onTerminal (withEmoji t) ++ "\n")

def markupLines (columns : Nat) (t : Text) : Except MarkupFault Text := do
  return Text.joinWith "\n" (← (← MarkedText.ofMarkup t).drawn .fold columns) ++ "\n"

/-- Two surrogates that make a pair are one code point in what is written. -/
def jsonLines (j : Json) : Text := (j.pretty 0).joinSurrogates ++ "\n"

/-- The console of a terminal with lines of so many cells, to which everything is written in UTF-8. -/
def console (columns : Nat) : Console where
  escape := escapeMarkup
  plain := plainLine
  markup t := writtenIfRead (markupLines columns t)
  json j := written (jsonLines j)
  panel title content := writtenIfRead (panel columns title content)
  table title headings rows := writtenIfRead (table columns title headings rows)

end Terminal

end Invocation
