import Invocation.Terminal.Lines

/-!
# Marked text

A text with stretches in styles of their own. When the text is broken into lines, its stretches are divided with it, and
what is left out of the text is left out of them.
-/

namespace Invocation

namespace Terminal

/-- A stretch of a text and the words of its style. -/
structure Span where
  start : Nat
  stop : Nat
  style : Text

namespace Span

def isEmpty (s : Span) : Bool := s.stop ≤ s.start

/-- What a part of the text has of the stretch, with its places in the part. -/
def within (start length : Nat) (s : Span) : Span := ⟨s.start - start, min (s.stop - start) length, s.style⟩

end Span

/-- A text with styles. -/
structure MarkedText where
  text : Text
  spans : List Span

namespace MarkedText

def empty : MarkedText := ⟨[], []⟩

/-! ## Parts -/

/-- The parts from `place` on, with `gap` code points left out between two of them. -/
def partsFrom (gap place : Nat) (m : MarkedText) : List Text → List MarkedText
  | [] => []
  | part :: r =>
    ⟨part, (m.spans.map (Span.within place part.length)).filter fun s => !s.isEmpty⟩ ::
      m.partsFrom gap (place + part.length + gap) r

/-- The text in parts. Empty stretches are lost when a text is cut, but not if all of it is one part. -/
def parts (gap : Nat) (m : MarkedText) : List Text → List MarkedText
  | [part] => [{ m with text := part }]
  | ps => m.partsFrom gap 0 ps

/-- The stretches that begin in the first `count` code points, up to there. -/
def spansUpTo (count : Nat) (m : MarkedText) : List Span :=
  (m.spans.filter fun s => s.start < count).map (Span.within 0 count)

def crop (count : Nat) (m : MarkedText) : MarkedText :=
  if count < m.text.length then ⟨m.text.take count, m.spansUpTo count⟩ else m

/-! ## Lines -/

def lines (m : MarkedText) : List MarkedText := m.parts 1 (m.text.splitAll fun c => c = .scalar '\n')

/-- Where the code point at `place` comes to stand when tabs are expanded. -/
def placeAfterTabs (m : MarkedText) (place : Nat) : Nat := (Terminal.expandTabs (m.text.take place)).length

/-- A line with spaces instead of tabs. It is cut behind its tabs for that, if there are any. -/
def expandTabs (m : MarkedText) : MarkedText :=
  if m.text.contains (.scalar '\t') then
    let moved := fun (s : Span) => (⟨m.placeAfterTabs s.start, m.placeAfterTabs s.stop, s.style⟩ : Span)
    ⟨Terminal.expandTabs m.text, (m.spans.filter fun s => !s.isEmpty).map moved⟩
  else m

/-- The lines that a line without tabs is broken into. -/
def broken (o : Overflow) (width : Nat) (m : MarkedText) : List MarkedText :=
  m.parts 0 (fillLines o width [] 0 (spacedWords m.text))

/-- The line without blanks at the end by which it is too long. -/
def withoutOverhang (width : Nat) (m : MarkedText) : MarkedText :=
  let blanks := m.text.length - m.text.trimRight.length
  m.crop (m.text.length - min blanks (m.text.length - width))

/-- A line with nothing beyond the width. -/
def cut (o : Overflow) (width : Nat) (m : MarkedText) : MarkedText :=
  let shown := o.cut width m.text
  ⟨shown, if shown.length < m.text.length then m.spansUpTo shown.length else m.spans⟩

/-- The lines of the text, none of them wider than the given width. -/
def wrapped (o : Overflow) (width : Nat) (m : MarkedText) : List MarkedText :=
  m.lines.flatMap fun line => (line.expandTabs.broken o width).map fun l => (l.withoutOverhang width).cut o width

end MarkedText

end Terminal

end Invocation
