import Mathlib.Data.List.TakeWhile
import Invocation.Proofs.Properties.Concatenated
import Invocation.Proofs.Properties.Written

/-!
# Divided lines

A line of a property text may be divided in two wherever no backslash is pending: a backslash is written behind the
first part, and the second part may be indented. Keys, separators, values and escapes may be divided so, and lines that
are continued anyway. Nothing changes but the numbers of the lines behind.
-/

namespace Invocation

namespace Properties

/-- A line may be divided behind `first`: this is not blank, begins no comment and leaves no backslash pending, and the
rest does not begin with a blank, so that it can be told from its indent. -/
structure Divides (first rest indent : Text) : Prop where
  visible : ∃ c ∈ first, isBlank c = false
  noComment : ∀ c ∈ (withoutIndent first).head?, c ≠ .scalar '#' ∧ c ≠ .scalar '!'
  nonePending : continues first = false
  stays : ∃ c ∈ rest.head?, isBlank c = false
  indent : ∀ c ∈ indent, isBlank c = true

/-- Where a natural line stands after line `number` has become two. -/
def afterDivision (number n : Nat) : Nat := if n ≤ number then n else n + 1

namespace Divides

variable {first rest indent : Text} (h : Divides first rest indent)
include h

theorem withoutIndent_first_ne_nil : withoutIndent first ≠ [] := by
  obtain ⟨c, hc, hstays⟩ := h.visible
  intro hnil
  have hblank : isBlank c = true := List.dropWhile_eq_nil_iff.mp hnil c hc
  rw [hstays] at hblank
  cases hblank

/-- The indent of the line is that of its first part. -/
theorem withoutIndent_append (t : Text) : withoutIndent (first ++ t) = withoutIndent first ++ t := by
  have hne : (first.dropWhile isBlank).isEmpty ≠ true := mt List.isEmpty_iff.mp h.withoutIndent_first_ne_nil
  rw [withoutIndent, List.dropWhile_append, if_neg hne, withoutIndent]

theorem isSkipped_append (t : Text) : isSkipped (withoutIndent (first ++ t)) = false := by
  rw [h.withoutIndent_append]
  cases hfirst : withoutIndent first with
  | nil => exact absurd hfirst h.withoutIndent_first_ne_nil
  | cons c r => simpa [isSkipped, CodePoint.isOneOf, hfirst] using h.noComment

theorem continues_first : continues (first ++ "\\") = true := by
  rw [continues_append h.nonePending]
  rfl

theorem withoutIndent_rest : withoutIndent (indent ++ rest) = rest := by
  obtain ⟨c, hc, hstays⟩ := h.stays
  rw [withoutIndent, List.dropWhile_append_of_pos h.indent]
  refine dropWhile_isBlank_of_head? fun d hd => ?_
  rw [Option.mem_unique hd hc, hstays]
  exact Bool.false_ne_true

/-- The second part is continued if the line was. -/
theorem continues_rest : continues (indent ++ rest) = continues (first ++ rest) := by
  rw [← continues_withoutIndent, h.withoutIndent_rest, continues_append h.nonePending]

theorem rest_ne_nil : rest ≠ [] := by
  rintro rfl
  obtain ⟨c, hc, -⟩ := h.stays
  cases hc

/-- Where a logical line can begin, the two parts are read as the line was. -/
theorem linesFrom_eq (number : Nat) (lines : List Text) :
    linesFrom number none ((first ++ "\\") :: (indent ++ rest) :: lines) =
      (linesFrom number none ((first ++ rest) :: lines)).map (LogicalLine.renumber (afterDivision number)) := by
  have hnumber : afterDivision number number = number := if_pos (Nat.le_refl number)
  have hnext : afterDivision number (number + 1) = number + 1 + 1 := if_neg (Nat.not_succ_le_self number)
  have hcounts : ∀ n, number + 1 ≤ n → afterDivision number (n + 1) = afterDivision number n + 1 := by
    intro n hn
    rw [afterDivision, afterDivision, if_neg (by omega), if_neg (by omega)]
  have hopened : (withoutIndent (first ++ "\\")).dropLast = withoutIndent first := by
    rw [h.withoutIndent_append]
    exact List.dropLast_concat
  rw [linesFrom_begin (h.isSkipped_append "\\"), linesFrom_begin (h.isSkipped_append rest),
    linesFrom_next h.continues_first, hopened, List.nil_append]
  -- from here on the same is read, but the lines behind are numbered one higher
  cases hrest : continues (first ++ rest) with
  | true =>
      have hmoved := linesFrom_renumber hcounts (some (number, withoutIndent first ++ rest.dropLast)) lines
      rw [hnext, Option.map_some, hnumber] at hmoved
      rw [linesFrom_next (h.continues_rest.trans hrest), linesFrom_next hrest, List.nil_append, h.withoutIndent_rest,
        h.withoutIndent_append, List.dropLast_append_of_ne_nil h.rest_ne_nil, hmoved]
  | false =>
      have hmoved := linesFrom_renumber hcounts none lines
      rw [hnext, Option.map_none] at hmoved
      rw [linesFrom_last (h.continues_rest.trans hrest), linesFrom_last hrest, List.nil_append, h.withoutIndent_rest,
        h.withoutIndent_append, List.map_cons, LogicalLine.renumber, hnumber, hmoved]

theorem unbroken_indent : Unbroken indent := fun c hc => by
  rcases isBlank_iff.mp (h.indent c hc) with rfl | rfl | rfl <;> decide

end Divides

/-! ## Texts -/

section Texts

variable {text text' lead first rest indent : Text} {before lines : List Text}

/-- Lines that hold the two parts of a line are the lines of a text. -/
theorem Divides.exists_lines (h : Divides first rest indent)
    (hlines : Lines text (before ++ (first ++ rest) :: lines)) :
    ∃ text', Lines text' (before ++ (first ++ "\\") :: (indent ++ rest) :: lines) := by
  refine Properties.exists_lines ?_
  have hunbroken := hlines.unbroken
  simp only [List.forall_mem_append, List.forall_mem_cons, Unbroken] at hunbroken ⊢
  obtain ⟨hbefore, ⟨hfirst, hrest⟩, hafter⟩ := hunbroken
  exact ⟨hbefore, ⟨hfirst, by decide⟩, ⟨h.unbroken_indent, hrest⟩, hafter⟩

variable {m : OrderedMap Text Text}

theorem Divides.parse_eq (h : Divides first rest indent) (hbefore : Lines lead before) (hm : parse lead = .ok m)
    (hlines : Lines text (before ++ (first ++ rest) :: lines))
    (hlines' : Lines text' (before ++ (first ++ "\\") :: (indent ++ rest) :: lines)) :
    parse text' = (parse text).mapError (Error.renumber (afterDivision (1 + before.length))) := by
  obtain ⟨es, hes, -⟩ := exists_entries_of_parse_eq_ok hm
  rw [entries, logicalLines, ← hbefore.eq_naturalLines] at hes
  rw [parse, parse, entries, entries, logicalLines, logicalLines, ← hlines.eq_naturalLines, ← hlines'.eq_naturalLines,
    mapM_entry_append hes, mapM_entry_append hes, h.linesFrom_eq, mapM_entry_renumber]
  cases (linesFrom (1 + before.length) none ((first ++ rest) :: lines)).mapM LogicalLine.entry <;> rfl

/-- A line behind others that can be read may be divided in two. The text is then read as the same map, or refused for
the same reason, at the same line if that begins no later than the divided one, and one line below otherwise. -/
theorem parse_divided (h : Divides first rest indent) (hbefore : Lines lead before) (hm : parse lead = .ok m)
    (hlines : Lines text (before ++ (first ++ rest) :: lines)) :
    (∃ text', Lines text' (before ++ (first ++ "\\") :: (indent ++ rest) :: lines)) ∧
    ∀ text', Lines text' (before ++ (first ++ "\\") :: (indent ++ rest) :: lines) →
      (∀ n, parse text = .ok n → parse text' = .ok n) ∧
      ∀ e, parse text = .error e →
        parse text' = .error ⟨e.fault, if e.line ≤ before.length + 1 then e.line else e.line + 1⟩ := by
  refine ⟨h.exists_lines hlines, fun text' hlines' => ?_⟩
  have heq := h.parse_eq hbefore hm hlines hlines'
  rw [Nat.add_comm] at heq
  constructor
  · intro n hn
    rw [heq, hn]
    rfl
  · intro e he
    rw [heq, he]
    rfl

/-- A line that is divided within an escape and continued anyway, before a line with a broken escape. -/
theorem parse_divided_escape :
    parse "a=1\nk=\\u00e9\\\n  b\rx=\\u12" = .error ⟨.malformedEscape, 4⟩ ∧
      parse "a=1\nk=\\u0\\\r\n\t0e9\\\n  b\nx=\\u12" = .error ⟨.malformedEscape, 5⟩ := by
  have h : Divides "k=\\u0" "0e9\\" "\t" := by
    refine ⟨⟨.scalar 'k', by decide, rfl⟩, by decide, rfl, ⟨.scalar '0', rfl, rfl⟩, by decide⟩
  have hm : parse "a=1" = .ok (.ofList [("a", "1")]) := rfl
  have hlines : Lines "a=1\nk=\\u00e9\\\n  b\rx=\\u12" (["a=1"] ++ ("k=\\u0" ++ "0e9\\") :: ["  b", "x=\\u12"]) :=
    lines_iff.mpr rfl
  have hparse : parse "a=1\nk=\\u00e9\\\n  b\rx=\\u12" = .error ⟨.malformedEscape, 4⟩ := rfl
  exact ⟨hparse, ((parse_divided h (lines_iff.mpr rfl) hm hlines).2 _ (lines_iff.mpr rfl)).2 _ hparse⟩

end Texts

end Properties

end Invocation
