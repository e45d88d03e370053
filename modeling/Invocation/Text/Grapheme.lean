import Invocation.Text.Width

/-!
# Graphemes

What is drawn at one place: a code point with everything that changes it. A text is cut and filled up in whole
graphemes, so that it takes a given number of cells.
-/

namespace Invocation

structure Grapheme where
  text : Text
  width : Nat

namespace Grapheme

def ofCodePoint (c : CodePoint) : Grapheme := ⟨[c], c.width⟩

/-- The grapheme with one more code point, which adds to its width only as a selector of a picture. -/
def push (g : Grapheme) (c : CodePoint) (added : Nat) : Grapheme := ⟨g.text ++ [c], g.width + added⟩

end Grapheme

namespace Text

/-- The graphemes of a text, given the one that has begun, its visible code point, and whether a joiner ends it. -/
def graphemesFrom (begun : Grapheme) (last : Option CodePoint) (joined : Bool) : Text → List Grapheme
  | [] => [begun]
  | c :: r =>
    if joined then graphemesFrom (begun.push c 0) last false r
    else if c.isJoiner then graphemesFrom (begun.push c 0) last true r
    else if c.isPictureSelector then graphemesFrom (begun.push c (addedWidth last)) none false r
    else if c.width = 0 then graphemesFrom (begun.push c 0) last false r
    else begun :: graphemesFrom (.ofCodePoint c) (some c) false r

def graphemes : Text → List Grapheme
  | [] => []
  | c :: r => graphemesFrom (.ofCodePoint c) (if c.width = 0 then none else some c) false r

/-! ## Fitting -/

/-- As many graphemes as there is room for. A space takes the place of one that is cut in two. -/
def fillRoom (room : Nat) : List Grapheme → Text
  | [] => []
  | g :: r =>
    if room = 0 then [] else if room < g.width then " " else g.text ++ fillRoom (room - g.width) r

/-- The text cut or filled up with spaces to a width. -/
def fitted (width : Nat) (t : Text) : Text :=
  if t.width ≤ width then t ++ fill (width - t.width) ' ' else fillRoom width t.graphemes

/-- The pieces of a text that is too wide, given the piece that has begun with its width. -/
def piecesFrom (width : Nat) (begun : Text) (size : Nat) : List Grapheme → List Text
  | [] => if size = 0 then [] else [begun]
  | g :: r =>
    if width < size + g.width then begun :: piecesFrom width g.text g.width r
    else piecesFrom width (begun ++ g.text) (size + g.width) r

/-- The text in pieces of at most the given width. -/
def pieces (width : Nat) (t : Text) : List Text := piecesFrom width [] 0 t.graphemes

end Text

end Invocation
