import Invocation.Terminal.Markup

/-!
# Panels

A text in a frame of the width of the terminal, with a title in the upper border.
-/

namespace Invocation

namespace Terminal

/-- The title between two pieces of border, if there is room for it; of an odd number of cells the last one comes behind
it. -/
def titleBorder (columns : Nat) (title : Text) : Text :=
  let shown := Overflow.fold.cut (columns - 4) (" " ++ title ++ " ")
  let room := columns - 4 - shown.width
  if columns ≤ 4 then "╭" ++ Text.fill (columns - 2) '─' ++ "╮\n"
  else "╭─" ++ Text.fill (room / 2) '─' ++ shown ++ Text.fill (room - room / 2) '─' ++ "─╮\n"

def panelRow (columns : Nat) (line : Text) : Text := "│ " ++ line.fitted (columns - 4) ++ " │\n"

/-- The frame around a markup text. -/
def panel (columns : Nat) (title content : Text) : Except MarkupFault Text := do
  let lines ← (← MarkedText.ofMarkup content).drawn .fold (columns - 4)
  return titleBorder columns title ++ lines.flatMap (panelRow columns) ++ "╰" ++ Text.fill (columns - 2) '─' ++ "╯\n"

end Terminal

end Invocation
