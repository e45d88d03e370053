import Invocation.Proofs.Properties.NaturalLines
import Invocation.Properties.Parse

/-!
# Line ends

A property text may end its lines in any of the three ways, each line in its own. As long as no carriage return is taken
together with a line feed that ends another line, the same lines are read.
-/

namespace Invocation

namespace Properties

/-- A line with what ends it: a line break, or nothing. -/
structure EndedLine where
  line : Text
  lineEnd : Text
deriving DecidableEq

namespace EndedLine

/-- The text of lines with what ends them. -/
def join (ls : List EndedLine) : Text := ls.flatMap fun l => l.line ++ l.lineEnd

theorem join_cons (line lineEnd : Text) (ls : List EndedLine) :
    join (⟨line, lineEnd⟩ :: ls) = line ++ lineEnd ++ join ls :=
  List.flatMap_cons

/-- The lines can be told apart in their text. Only the last may lack a line break, if it is not empty, and no carriage
return stands before an empty line that ends in a line feed, for both together would break one line. -/
inductive Apart : List EndedLine → Prop where
  | nil : Apart []
  | last {line : Text} (hline : Unbroken line) (hne : line ≠ []) : Apart [⟨line, []⟩]
  | broken {line lineBreak : Text} {ls : List EndedLine} (hline : Unbroken line) (hbreak : lineBreak ∈ lineBreaks)
      (hwhole : lineBreak = "\r" → ls.head? ≠ some ⟨[], "\n"⟩) (hrest : Apart ls) : Apart (⟨line, lineBreak⟩ :: ls)

namespace Apart

variable {ls : List EndedLine}

/-- A text that begins with a line feed begins with an empty line. -/
theorem head?_of_lineFeed (h : Apart ls) (hhead : (join ls).head? = some (.scalar '\n')) :
    ls.head? = some ⟨[], "\n"⟩ := by
  have hnot {line : Text} (hline : Unbroken line) (hne : line ≠ []) (rest : Text) :
      (line ++ rest).head? ≠ some (.scalar '\n') := by
    rw [List.head?_append_of_ne_nil _ hne]
    exact fun hhead => (hline _ (List.mem_of_head? hhead)).2 rfl
  cases h with
  | nil => cases hhead
  | last hline hne =>
      rw [join_cons, List.append_assoc] at hhead
      exact absurd hhead (hnot hline hne _)
  | @broken line lineBreak ls hline hbreak _ _ =>
      rw [join_cons, List.append_assoc] at hhead
      by_cases hne : line = []
      · simp only [lineBreaks, List.mem_cons, List.not_mem_nil, or_false] at hbreak
        rw [hne] at hhead ⊢
        rcases hbreak with rfl | rfl | rfl
        · rfl
        · cases hhead
        · cases hhead
      · exact absurd hhead (hnot hline hne _)

/-- The text is cut into the lines again. -/
theorem lines (h : Apart ls) : Lines (join ls) (ls.map line) := by
  induction h with
  | nil => exact .nil
  | @last line hline hne =>
      have htext : join [⟨line, []⟩] = line := by rw [join_cons, List.append_nil]; exact List.append_nil line
      rw [htext]
      exact .last hline hne
  | broken hline hbreak hwhole hrest ih =>
      exact .broken hline ⟨hbreak, fun hr hhead => hwhole hr (hrest.head?_of_lineFeed hhead)⟩ ih

end Apart

-- the line break of the second line would belong to that of the first
example : naturalLines (join [⟨"a", "\r"⟩, ⟨[], "\n"⟩]) = ["a"] := rfl

end EndedLine

open EndedLine

/-- However the lines of a property text end, it is read as the same map, or refused with the same error at the same
line. -/
theorem parse_join {ls ls' : List EndedLine} (h : Apart ls) (h' : Apart ls')
    (hlines : ls.map line = ls'.map line) : parse (join ls) = parse (join ls') := by
  have hnatural : naturalLines (join ls) = naturalLines (join ls') :=
    calc naturalLines (join ls)
        = ls.map line := h.lines.eq_naturalLines.symm
      _ = ls'.map line := hlines
      _ = naturalLines (join ls') := h'.lines.eq_naturalLines
  rw [parse, parse, entries, entries, logicalLines, logicalLines, hnatural]

/-- A line that is continued, an empty line behind a carriage return, and a broken escape. -/
theorem parse_join_brokenEscape :
    parse "k=a\\\r\n  b\r\r\nx=\\u12" = parse "k=a\\\n  b\n\rx=\\u12\r\n" ∧
      parse "k=a\\\r\n  b\r\r\nx=\\u12" = .error ⟨.malformedEscape, 4⟩ := by
  have h : Apart [⟨"k=a\\", "\r\n"⟩, ⟨"  b", "\r"⟩, ⟨[], "\r\n"⟩, ⟨"x=\\u12", []⟩] :=
    .broken (by decide) (by decide) (by decide) <| .broken (by decide) (by decide) (by decide) <|
      .broken (by decide) (by decide) (by decide) <| .last (by decide) (by decide)
  have h' : Apart [⟨"k=a\\", "\n"⟩, ⟨"  b", "\n"⟩, ⟨[], "\r"⟩, ⟨"x=\\u12", "\r\n"⟩] :=
    .broken (by decide) (by decide) (by decide) <| .broken (by decide) (by decide) (by decide) <|
      .broken (by decide) (by decide) (by decide) <| .broken (by decide) (by decide) (by decide) .nil
  exact ⟨parse_join h h' rfl, rfl⟩

end Properties

end Invocation
