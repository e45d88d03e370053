import Mathlib.Data.List.Induction
import Invocation.Proofs.Properties.Spelling

/-!
# Logical lines

A logical line is made of natural lines that are continued, one after the other, and of the first one behind them that
is not. Which natural lines belong together can be told without reading them one by one, and lines behind a text whose
logical lines are complete are read as if they stood alone.
-/

namespace Invocation

namespace Properties

/-! ## Backslashes at the end -/

variable {u : Text}

/-- A text without a pending backslash does not change what is pending at the end of a longer one. -/
theorem continues_append (h : continues u = false) (t : Text) : continues (u ++ t) = continues t := by
  induction t using List.reverseRecOn with
  | nil => rw [List.append_nil, h]; rfl
  | append_singleton t c ih => rw [← List.append_assoc, continues_concat, continues_concat, ih]

theorem continues_cons_of_ne {c : CodePoint} (h : c ≠ .scalar '\\') (t : Text) : continues (c :: t) = continues t :=
  continues_append (u := [c]) (by rw [← List.nil_append [c], continues_concat, decide_eq_false h]; rfl) t

theorem continues_escape (c : CodePoint) (t : Text) : continues (.scalar '\\' :: c :: t) = continues t := by
  have hpair : continues [.scalar '\\', c] = false := by
    rw [← List.singleton_append, continues_concat]
    exact Bool.and_false _
  exact continues_append hpair t

theorem ne_backslash_of_isBlank {c : CodePoint} (h : isBlank c = true) : c ≠ .scalar '\\' := by
  rintro rfl
  exact absurd h (by decide)

/-- Blanks at the beginning of a line do not matter for its continuation. -/
theorem continues_withoutIndent (line : Text) : continues (withoutIndent line) = continues line := by
  induction line with
  | nil => rfl
  | cons c line ih =>
      cases hc : isBlank c with
      | false => rw [withoutIndent, List.dropWhile_cons_of_neg (by simp [hc])]
      | true =>
          rw [continues_cons_of_ne (ne_backslash_of_isBlank hc), ← ih, withoutIndent,
            List.dropWhile_cons_of_pos hc, withoutIndent]

/-! ## Natural lines that belong together -/

/-- The texts of lines that are continued, without indents and marks of continuation. -/
def joined (lines : List Text) : Text := lines.flatMap fun line => (withoutIndent line).dropLast

/-- A logical line can begin with the first of the lines. -/
def CanBegin (lines : List Text) : Prop := ∀ line ∈ lines.head?, isSkipped (withoutIndent line) = false

/-- The logical lines of natural lines that are numbered from `number`. Blank lines and comments do not count where a
logical line could begin. A logical line goes on as long as its natural lines are continued, and is not complete if
these are the last of all. -/
inductive Joins : Nat → List Text → List LogicalLine → Prop where
  | nil {number : Nat} : Joins number [] []
  | skipped {number : Nat} {line : Text} {lines : List Text} {ls : List LogicalLine}
      (hskipped : isSkipped (withoutIndent line) = true) (hrest : Joins (number + 1) lines ls) :
      Joins number (line :: lines) ls
  | complete {number : Nat} {continued : List Text} {last : Text} {lines : List Text} {ls : List LogicalLine}
      (hbegin : CanBegin (continued ++ [last])) (hcontinued : ∀ line ∈ continued, continues line = true)
      (hlast : continues last = false) (hrest : Joins (number + continued.length + 1) lines ls) :
      Joins number (continued ++ last :: lines) (⟨number, joined continued ++ withoutIndent last, true⟩ :: ls)
  | unterminated {number : Nat} {continued : List Text} (hne : continued ≠ []) (hbegin : CanBegin continued)
      (hcontinued : ∀ line ∈ continued, continues line = true) :
      Joins number continued [⟨number, joined continued, false⟩]

section linesFrom

variable {number : Nat} {line : Text}

theorem linesFrom_skipped (h : isSkipped (withoutIndent line) = true) (lines : List Text) :
    linesFrom number none (line :: lines) = linesFrom (number + 1) none lines := by
  simp [linesFrom, h]

theorem linesFrom_begin (h : isSkipped (withoutIndent line) = false) (lines : List Text) :
    linesFrom number none (line :: lines) = linesFrom number (some (number, [])) (line :: lines) := by
  simp [linesFrom, h]

theorem linesFrom_last (h : continues line = false) (start : Nat) (text : Text) (lines : List Text) :
    linesFrom number (some (start, text)) (line :: lines) =
      ⟨start, text ++ withoutIndent line, true⟩ :: linesFrom (number + 1) none lines := by
  simp [linesFrom, continues_withoutIndent, h]

theorem linesFrom_next (h : continues line = true) (start : Nat) (text : Text) (lines : List Text) :
    linesFrom number (some (start, text)) (line :: lines) =
      linesFrom (number + 1) (some (start, text ++ (withoutIndent line).dropLast)) lines := by
  simp [linesFrom, continues_withoutIndent, h]

theorem linesFrom_continued {continued : List Text} (h : ∀ line ∈ continued, continues line = true) (start : Nat)
    (text : Text) (lines : List Text) :
    linesFrom number (some (start, text)) (continued ++ lines) =
      linesFrom (number + continued.length) (some (start, text ++ joined continued)) lines := by
  induction continued generalizing number text with
  | nil => simp [joined]
  | cons line continued ih =>
      obtain ⟨hline, hcontinued⟩ := List.forall_mem_cons.mp h
      simp [linesFrom_next hline, ih hcontinued, joined, Nat.add_assoc, Nat.add_comm 1]

theorem linesFrom_canBegin {lines : List Text} (h : CanBegin lines) (hne : lines ≠ []) :
    linesFrom number none lines = linesFrom number (some (number, [])) lines := by
  cases lines with
  | nil => exact absurd rfl hne
  | cons line lines => exact linesFrom_begin (h line rfl) lines

end linesFrom

/-- The joined lines are those that are read. -/
theorem Joins.eq_linesFrom {number : Nat} {lines : List Text} {ls : List LogicalLine} (h : Joins number lines ls) :
    ls = linesFrom number none lines := by
  induction h with
  | nil => rfl
  | skipped hskipped _ ih => rw [linesFrom_skipped hskipped, ih]
  | @complete number continued last lines ls hbegin hcontinued hlast _ ih =>
      have hbegin' : CanBegin (continued ++ last :: lines) := by
        cases continued <;> exact hbegin
      rw [linesFrom_canBegin hbegin' (by simp), linesFrom_continued hcontinued, linesFrom_last hlast, ih,
        List.nil_append]
  | @unterminated number continued hne hbegin hcontinued =>
      have hall : linesFrom number (some (number, [])) (continued ++ []) = _ :=
        linesFrom_continued hcontinued number [] []
      rw [List.append_nil, List.nil_append] at hall
      rw [linesFrom_canBegin hbegin hne, hall]
      rfl

/-- Lines are continued up to the first that is not, if there is one. -/
theorem exists_continued (lines : List Text) :
    ∃ continued rest, lines = continued ++ rest ∧ (∀ line ∈ continued, continues line = true) ∧
      ∀ line ∈ rest.head?, continues line = false := by
  induction lines with
  | nil => exact ⟨[], [], rfl, by simp, by simp⟩
  | cons line lines ih =>
      cases hline : continues line with
      | false => exact ⟨[], line :: lines, rfl, by simp, by simp [hline]⟩
      | true =>
          obtain ⟨continued, rest, rfl, hcontinued, hrest⟩ := ih
          exact ⟨line :: continued, rest, rfl, List.forall_mem_cons.mpr ⟨hline, hcontinued⟩, hrest⟩

theorem joins_linesFrom (number : Nat) (lines : List Text) : Joins number lines (linesFrom number none lines) := by
  induction hlength : lines.length using Nat.strongRecOn generalizing number lines with
  | _ length ih =>
      cases lines with
      | nil => exact .nil
      | cons line lines =>
          cases hskipped : isSkipped (withoutIndent line) with
          | true =>
              rw [linesFrom_skipped hskipped]
              exact .skipped hskipped (ih lines.length (by simp [← hlength]) _ _ rfl)
          | false =>
              have hbegin : CanBegin (line :: lines) := by simpa [CanBegin] using hskipped
              obtain ⟨continued, rest, heq, hcontinued, hrest⟩ := exists_continued (line :: lines)
              rw [linesFrom_canBegin hbegin (by simp), heq, linesFrom_continued hcontinued, List.nil_append]
              rw [heq] at hbegin hlength
              cases rest with
              | nil =>
                  have hne : continued ≠ [] := by
                    rintro rfl
                    cases heq
                  rw [List.append_nil] at hbegin ⊢
                  exact .unterminated hne hbegin hcontinued
              | cons last rest =>
                  have hlast : continues last = false := hrest last rfl
                  have hbegin' : CanBegin (continued ++ [last]) := by
                    cases continued <;> exact hbegin
                  have hshorter : rest.length < length := by
                    rw [← hlength, List.length_append, List.length_cons]
                    omega
                  rw [linesFrom_last hlast]
                  exact .complete hbegin' hcontinued hlast (ih rest.length hshorter _ _ rfl)

/-- The lines that are read are those that natural lines join to. -/
theorem joins_iff {number : Nat} {lines : List Text} {ls : List LogicalLine} :
    Joins number lines ls ↔ ls = linesFrom number none lines :=
  ⟨Joins.eq_linesFrom, fun h => h ▸ joins_linesFrom number lines⟩

/-! ## Numbers of lines -/

/-- The line where `f` says how natural lines are numbered. -/
def LogicalLine.renumber (f : Nat → Nat) (l : LogicalLine) : LogicalLine := { l with start := f l.start }

/-- If `f` goes on counting from `number`, natural lines from there may be numbered before they are read or
afterwards. A line that is still to be continued may begin anywhere. -/
theorem linesFrom_renumber {f : Nat → Nat} {number : Nat} (hf : ∀ n, number ≤ n → f (n + 1) = f n + 1)
    (opened : Option (Nat × Text)) (lines : List Text) :
    linesFrom (f number) (opened.map fun o => (f o.1, o.2)) lines =
      (linesFrom number opened lines).map (LogicalLine.renumber f) := by
  induction lines generalizing number opened with
  | nil => cases opened <;> rfl
  | cons line lines ih =>
      have hrest (opened : Option (Nat × Text)) :
          linesFrom (f number + 1) (opened.map fun o => (f o.1, o.2)) lines =
            (linesFrom (number + 1) opened lines).map (LogicalLine.renumber f) := by
        rw [← hf number (Nat.le_refl number)]
        exact ih (fun n hn => hf n (Nat.le_of_succ_le hn)) opened
      cases opened with
      | none =>
          simp only [linesFrom, Option.map_none]
          split
          · exact hrest none
          · split
            · -- the line begins where `f` counts, and keeps its start from here on
              exact hrest (some (number, (withoutIndent line).dropLast))
            · exact congrArg (_ :: ·) (hrest none)
      | some o =>
          simp only [linesFrom, Option.map_some]
          split
          · exact hrest (some (o.1, o.2 ++ (withoutIndent line).dropLast))
          · exact congrArg (_ :: ·) (hrest none)

/-! ## Lines one after the other -/

/-- The line as it is read behind `count` other natural lines. -/
def LogicalLine.behind (count : Nat) (l : LogicalLine) : LogicalLine := { l with start := l.start + count }

theorem linesFrom_add (number count : Nat) (lines : List Text) :
    linesFrom (number + count) none lines = (linesFrom number none lines).map (LogicalLine.behind count) :=
  linesFrom_renumber (f := (· + count)) (fun n _ => Nat.add_right_comm n 1 count) none lines

/-- Behind natural lines that leave nothing to be continued, others join as if they stood alone. -/
theorem Joins.append {number : Nat} {lines rest : List Text} {ls ls' : List LogicalLine}
    (h : Joins number lines ls) (hcomplete : ∀ l ∈ ls, l.complete = true)
    (hrest : Joins (number + lines.length) rest ls') : Joins number (lines ++ rest) (ls ++ ls') := by
  induction h with
  | nil => exact hrest
  | @skipped number line lines ls hskipped _ ih =>
      rw [List.length_cons, Nat.add_comm lines.length, ← Nat.add_assoc] at hrest
      exact .skipped hskipped (ih hcomplete hrest)
  | @complete number continued last lines ls hbegin hcontinued hlast _ ih =>
      obtain ⟨-, hcomplete⟩ := List.forall_mem_cons.mp hcomplete
      have hlength : number + (continued ++ last :: lines).length = number + continued.length + 1 + lines.length := by
        simp only [List.length_append, List.length_cons]
        omega
      rw [List.append_assoc, List.cons_append]
      exact .complete hbegin hcontinued hlast (ih hcomplete (hlength ▸ hrest))
  | unterminated _ _ _ => simp at hcomplete

theorem linesFrom_append {number : Nat} {lines : List Text}
    (h : ∀ l ∈ linesFrom number none lines, l.complete = true) (rest : List Text) :
    linesFrom number none (lines ++ rest) =
      linesFrom number none lines ++ (linesFrom number none rest).map (LogicalLine.behind lines.length) := by
  rw [← linesFrom_add]
  exact ((joins_linesFrom number lines).append h (joins_linesFrom _ rest)).eq_linesFrom.symm

end Properties

end Invocation
