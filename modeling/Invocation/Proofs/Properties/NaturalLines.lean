import Mathlib.Data.List.Basic
import Invocation.Properties.Line
import Invocation.Text.LineBreak

/-!
# Natural lines

A text is cut into natural lines at its line breaks, wherever they are. Behind a line feed it is cut as if it began
there, and there are as many lines before as there are line breaks.
-/

namespace Invocation

namespace Properties

def lineBreaks : List Text := ["\n", "\r", "\r\n"]

/-- No line breaks in the text. -/
def Unbroken (t : Text) : Prop := ∀ c ∈ t, c ≠ .scalar '\r' ∧ c ≠ .scalar '\n'

instance : DecidablePred Unbroken := fun t =>
  inferInstanceAs (Decidable (∀ c ∈ t, c ≠ .scalar '\r' ∧ c ≠ .scalar '\n'))

/-- A line break before the rest of a text. A line feed at the beginning of the rest belongs to a carriage return. -/
structure Breaks (lineBreak rest : Text) : Prop where
  isBreak : lineBreak ∈ lineBreaks
  whole : lineBreak = "\r" → rest.head? ≠ some (.scalar '\n')

theorem breaks_lineFeed (rest : Text) : Breaks "\n" rest := ⟨by decide, fun h => absurd h (by decide)⟩

theorem breaks_both (rest : Text) : Breaks "\r\n" rest := ⟨by decide, fun h => absurd h (by decide)⟩

theorem breaks_carriageReturn {rest : Text} (h : ∀ r, rest ≠ .scalar '\n' :: r) : Breaks "\r" rest := by
  refine ⟨by decide, fun _ hhead => ?_⟩
  obtain ⟨r, hr⟩ := List.head?_eq_some_iff.mp hhead
  exact h r hr

theorem Breaks.cases {lineBreak rest : Text} (h : Breaks lineBreak rest) :
    lineBreak = "\n" ∨ (lineBreak = "\r" ∧ ∀ r, rest ≠ .scalar '\n' :: r) ∨ lineBreak = "\r\n" := by
  obtain ⟨hbreak, hwhole⟩ := h
  simp only [lineBreaks, List.mem_cons, List.not_mem_nil, or_false] at hbreak
  rcases hbreak with rfl | rfl | rfl
  · exact .inl rfl
  · exact .inr (.inl ⟨rfl, fun r hr => hwhole rfl (hr ▸ rfl)⟩)
  · exact .inr (.inr rfl)

section Reading

variable {line lineBreak rest : Text}

theorem naturalLines_break (h : Breaks lineBreak rest) :
    naturalLines (lineBreak ++ rest) = [] :: naturalLines rest := by
  rcases h.cases with rfl | ⟨rfl, hrest⟩ | rfl
  · rfl
  · exact naturalLines.eq_3 rest hrest
  · rfl

theorem naturalLines_cons {c : CodePoint} (hr : c ≠ .scalar '\r') (hn : c ≠ .scalar '\n') (t : Text) :
    naturalLines (c :: t) =
      match naturalLines t with
      | [] => [[c]]
      | line :: lines => (c :: line) :: lines := by
  rw [naturalLines.eq_def]
  grind

variable (hline : Unbroken line)
include hline

theorem naturalLines_append (hbreak : Breaks lineBreak rest) :
    naturalLines (line ++ lineBreak ++ rest) = line :: naturalLines rest := by
  induction line with
  | nil => exact naturalLines_break hbreak
  | cons c line ih =>
      obtain ⟨hc, hline⟩ := List.forall_mem_cons.mp hline
      rw [List.cons_append, List.cons_append, naturalLines_cons hc.1 hc.2, ih hline]

theorem naturalLines_of_unbroken (hne : line ≠ []) : naturalLines line = [line] := by
  induction line with
  | nil => exact absurd rfl hne
  | cons c line ih =>
      obtain ⟨hc, hline⟩ := List.forall_mem_cons.mp hline
      rw [naturalLines_cons hc.1 hc.2]
      cases line with
      | nil => rfl
      | cons d line => rw [ih hline (List.cons_ne_nil d line)]

end Reading

/-! ## Where a text is cut -/

/-- The lines of a text. A carriage return with a line feed behind it is no line break by itself, and a line break at
the end of the text begins no other line. -/
inductive Lines : Text → List Text → Prop where
  | nil : Lines [] []
  | last {line : Text} (hline : Unbroken line) (hne : line ≠ []) : Lines line [line]
  | broken {line lineBreak rest : Text} {lines : List Text} (hline : Unbroken line) (hbreak : Breaks lineBreak rest)
      (hrest : Lines rest lines) : Lines (line ++ lineBreak ++ rest) (line :: lines)

namespace Lines

variable {t : Text} {lines : List Text}

theorem eq_naturalLines (h : Lines t lines) : lines = naturalLines t := by
  induction h with
  | nil => rfl
  | last hline hne => rw [naturalLines_of_unbroken hline hne]
  | broken hline hbreak _ ih => rw [naturalLines_append hline hbreak, ih]

theorem eq_nil (h : Lines t []) : t = [] := by
  cases h
  rfl

/-- A code point that breaks no line belongs to the first one. -/
theorem cons {c : CodePoint} {line : Text} (hc : c ≠ .scalar '\r' ∧ c ≠ .scalar '\n') (h : Lines t (line :: lines)) :
    Lines (c :: t) ((c :: line) :: lines) := by
  cases h with
  | last hline hne => exact .last (List.forall_mem_cons.mpr ⟨hc, hline⟩) (List.cons_ne_nil _ _)
  | broken hline hbreak hrest =>
      rw [← List.cons_append, ← List.cons_append]
      exact .broken (List.forall_mem_cons.mpr ⟨hc, hline⟩) hbreak hrest

end Lines

theorem lines_naturalLines (t : Text) : Lines t (naturalLines t) := by
  have hempty : Unbroken [] := by simp [Unbroken]
  fun_induction naturalLines t with
  | case1 => exact .nil
  | case2 r ih => exact .broken hempty (breaks_both r) ih
  | case3 r hr ih => exact .broken hempty (breaks_carriageReturn hr) ih
  | case4 r ih => exact .broken hempty (breaks_lineFeed r) ih
  | case5 c r _ hr hn hnil ih =>
      rw [hnil] at ih
      rw [ih.eq_nil]
      exact .last (List.forall_mem_singleton.mpr ⟨hr, hn⟩) (List.cons_ne_nil c [])
  | case6 c r _ hr hn line lines hlines ih =>
      rw [hlines] at ih
      exact ih.cons ⟨hr, hn⟩

/-- There is one way to cut a text into its lines. -/
theorem lines_iff {t : Text} {lines : List Text} : Lines t lines ↔ lines = naturalLines t :=
  ⟨Lines.eq_naturalLines, fun h => h ▸ lines_naturalLines t⟩

theorem Lines.unbroken {t : Text} {lines : List Text} (h : Lines t lines) : ∀ line ∈ lines, Unbroken line := by
  induction h with
  | nil => simp
  | last hline _ => simpa using hline
  | broken hline _ _ ih => exact List.forall_mem_cons.mpr ⟨hline, ih⟩

/-- Lines that hold no line break are those of some text. -/
theorem exists_lines {lines : List Text} (h : ∀ line ∈ lines, Unbroken line) : ∃ t, Lines t lines := by
  induction lines with
  | nil => exact ⟨[], .nil⟩
  | cons line lines ih =>
      obtain ⟨hline, hlines⟩ := List.forall_mem_cons.mp h
      obtain ⟨t, ht⟩ := ih hlines
      exact ⟨line ++ "\n" ++ t, .broken hline (breaks_lineFeed t) ht⟩

/-! ## Line breaks -/

/-- How often a line breaks in the text, with a line feed or without one. -/
def lineBreakCount (t : Text) : Nat := t.normalizeBreaks.count (.scalar '\n')

theorem lineBreakCount_cons {c : CodePoint} (h : c ≠ .scalar '\r' ∧ c ≠ .scalar '\n') (t : Text) :
    lineBreakCount (c :: t) = lineBreakCount t := by
  have hcons : Text.normalizeBreaks (c :: t) = c :: t.normalizeBreaks := by
    rw [Text.normalizeBreaks.eq_def]
    grind
  rw [lineBreakCount, hcons, List.count_cons_of_ne h.2, lineBreakCount]

theorem lineBreakCount_append {line : Text} (h : Unbroken line) (t : Text) :
    lineBreakCount (line ++ t) = lineBreakCount t := by
  induction line with
  | nil => rfl
  | cons c line ih =>
      obtain ⟨hc, hline⟩ := List.forall_mem_cons.mp h
      rw [List.cons_append, lineBreakCount_cons hc, ih hline]

theorem lineBreakCount_break {lineBreak rest : Text} (h : Breaks lineBreak rest) :
    lineBreakCount (lineBreak ++ rest) = lineBreakCount rest + 1 := by
  rcases h.cases with rfl | ⟨rfl, hrest⟩ | rfl
  · exact List.count_cons_self
  · change (Text.normalizeBreaks (.scalar '\r' :: rest)).count _ = _
    rw [Text.normalizeBreaks.eq_2 rest hrest]
    exact List.count_cons_self
  · exact List.count_cons_self

/-- The lines before a line feed do not depend on what follows it. They are those of the text alone, and an empty one if
the line feed breaks no line of the text. -/
theorem Lines.exists_before {t : Text} {lines : List Text} (h : Lines t lines) :
    ∃ before, (∀ u, naturalLines (t ++ .scalar '\n' :: u) = before ++ naturalLines u) ∧
      (before = lines ∨ before = lines ++ [[]]) ∧ before.length = lineBreakCount (t ++ [.scalar '\n']) := by
  induction h with
  | nil => exact ⟨[[]], fun _ => rfl, .inr rfl, rfl⟩
  | @last line hline _ =>
      refine ⟨[line], fun u => ?_, .inl rfl, by rw [lineBreakCount_append hline]; rfl⟩
      have hread := naturalLines_append hline (breaks_lineFeed u)
      rwa [List.append_assoc] at hread
  | @broken line lineBreak rest lines hline hbreak hrest ih =>
      by_cases hmerge : lineBreak = "\r" ∧ rest = []
      · -- the line feed belongs to the carriage return at the end of the text
        obtain ⟨rfl, rfl⟩ := hmerge
        have hlines : lines = [] := hrest.eq_naturalLines
        refine ⟨[line], fun u => ?_, .inl (by rw [hlines]), ?_⟩
        · have hread := naturalLines_append hline (breaks_both u)
          rw [List.append_assoc] at hread
          rw [List.append_nil, List.append_assoc]
          exact hread
        · rw [List.append_nil, List.append_assoc, lineBreakCount_append hline]
          rfl
      · have hbreak' (u : Text) : Breaks lineBreak (rest ++ .scalar '\n' :: u) := by
          refine ⟨hbreak.isBreak, fun hr => ?_⟩
          have hne : rest ≠ [] := fun hnil => hmerge ⟨hr, hnil⟩
          rw [List.head?_append_of_ne_nil _ hne]
          exact hbreak.whole hr
        obtain ⟨before, hread, hbefore, hlength⟩ := ih
        refine ⟨line :: before, fun u => ?_, ?_, ?_⟩
        · rw [List.append_assoc, naturalLines_append hline (hbreak' u), hread, List.cons_append]
        · rcases hbefore with rfl | rfl
          · exact .inl rfl
          · exact .inr rfl
        · rw [List.append_assoc, List.append_assoc, lineBreakCount_append hline, lineBreakCount_break (hbreak' []),
            ← hlength, List.length_cons]

end Properties

end Invocation
