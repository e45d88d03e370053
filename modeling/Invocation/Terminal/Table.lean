import Invocation.Terminal.Markup
import Invocation.Text.LineBreak

/-!
# Tables

A table has a title, a row of headings and further rows, with lines around the cells. A column is as wide as its widest
cell, and a row as high as its highest one. If the columns take more room than there is, the widest ones give way.
-/

namespace Invocation

namespace Terminal

/-! ## Rules -/

/-- How a line is drawn: its left end, what it is made of, what stands between two columns, and its right end. -/
structure Rule where
  left : Char
  fill : Char
  between : Char
  right : Char

def topRule : Rule := ⟨'┏', '━', '┳', '┓'⟩

def headingRule : Rule := ⟨'┡', '━', '╇', '┩'⟩

def bottomRule : Rule := ⟨'└', '─', '┴', '┘'⟩

def Rule.draw (r : Rule) (cells : List Text) : Text :=
  [.scalar r.left] ++ Text.joinWith [.scalar r.between] cells ++ [.scalar r.right, .scalar '\n']

/-- A line between rows of columns with the given widths. -/
def Rule.line (r : Rule) (widths : List Nat) : Text := r.draw (widths.map fun w => Text.fill w r.fill)

/-! ## Widths of columns -/

def greatest (ns : List Nat) : Nat := ns.foldl max 0

def total (ns : List Nat) : Nat := ns.foldl (· + ·) 0

/-- What a cell wants of the room for all columns: its widest line and a space on both sides. -/
def cellWidth (room : Nat) (cell : MarkedText) : Nat :=
  min (greatest ((cell.text.splitAll CodePoint.endsLine).map Text.width) + 2) room

def columnWidth (room : Nat) (column : List MarkedText) : Nat := greatest (column.map (cellWidth room))

/-- The part of a number that falls to each of `count` shares, to the nearest number and of two to the even one. -/
def share (n count : Nat) : Nat :=
  let q := n / count
  let r := n % count
  if 2 * r < count ∨ (2 * r = count ∧ q % 2 = 0) then q else q + 1

/-- Takes `excess` cells from the `count` columns of the given width, at most `limit` from each of them. -/
def takeCells (width limit excess count : Nat) : List Nat → List Nat
  | [] => []
  | w :: r =>
    if w = width then
      let taken := min limit (share excess count)
      (w - taken) :: takeCells width limit (excess - taken) (count - 1) r
    else w :: takeCells width limit excess count r

/-- The widths after a number of steps. Each step brings the widest columns down to the next ones. -/
def narrowed (room : Nat) : Nat → List Nat → List Nat
  | 0, widths => widths
  | steps + 1, widths =>
    let excess := total widths - room
    let widest := greatest widths
    let next := greatest (widths.filter (· ≠ widest))
    if excess = 0 then widths
    else narrowed room steps (takeCells widest (min excess (widest - next)) excess (widths.count widest) widths)

/-- The widths of the columns with the spaces around their cells. Each step of narrowing takes at least one cell. -/
def layOut (room : Nat) (columns : List (List MarkedText)) : List Nat :=
  let widths := columns.map (columnWidth room)
  narrowed room (total widths - room) widths

/-! ## Rows -/

/-- One line of every cell of a row, between bars. -/
def rowLine (bar : Char) (widths : List Nat) (lines : List Text) : Text :=
  Rule.draw ⟨bar, bar, bar, bar⟩
    (List.zipWith (fun w (line : Text) => ((" " ++ line.fitted (w - 2) ++ " " : Text)).fitted w) widths lines)

/-- A row is at least one line high. -/
def rowText (bar : Char) (widths : List Nat) (cells : List (List Text)) : Text :=
  (List.range (max 1 (greatest (cells.map List.length)))).flatMap fun n =>
    rowLine bar widths (cells.map fun lines => lines.getD n [])

/-- The row with the given number, for which every column has a cell. -/
def drawnRow (bar : Char) (widths : List Nat) (columns : List (List MarkedText)) (number : Nat) :
    Except MarkupFault Text := do
  let cells ← (widths.zip columns).mapM fun (w, column) => (column.getD number .empty).drawn .ellipsis (w - 2)
  return rowText bar widths cells

/-! ## Tables -/

/-- The title in the middle above the table. -/
def titleLines (width : Nat) (title : Text) : Text :=
  ((⟨title, []⟩ : MarkedText).wrapped .fold width).flatMap fun line => centered width line.text.trimRight ++ "\n"

/-- The columns of a table, each with its heading, as they are read: one after the other, before anything is drawn. -/
def readColumns (headings : List Text) (rows : List (List Text)) : Except MarkupFault (List (List MarkedText)) :=
  (List.range headings.length).mapM fun n =>
    (headings :: rows).mapM fun row => MarkedText.ofMarkup (row.getD n [])

/-- The table of markup texts, on a terminal with room for something in the cells. -/
def table (room : Nat) (title : Text) (headings : List Text) (rows : List (List Text)) : Except MarkupFault Text := do
  let columns ← readColumns headings rows
  let borders := headings.length + 1
  let widths := layOut (room - borders) columns
  let top ← drawnRow '┃' widths columns 0
  let body ← (List.range rows.length).mapM fun n => drawnRow '│' widths columns (n + 1)
  return titleLines (total widths + borders) title ++ topRule.line widths ++ top ++ headingRule.line widths
    ++ body.flatten ++ bottomRule.line widths

end Terminal

end Invocation
