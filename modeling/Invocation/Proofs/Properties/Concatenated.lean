import Invocation.Proofs.OrderedMap
import Invocation.Proofs.Properties.Flaws

/-!
# Concatenated property texts

A property text that can be read leaves nothing open. What stands behind a line feed after it is read as if it stood
alone: its entries are set in the map of the text before, and an error in it keeps its fault and moves by the lines
before.
-/

namespace Invocation

namespace Properties

/-! ## Lines behind others -/

/-- The error as it is reported behind `count` other natural lines. -/
def Error.behind (count : Nat) (e : Error) : Error := { e with line := e.line + count }

theorem mapM_entry_behind (count : Nat) (ls : List LogicalLine) :
    (ls.map (LogicalLine.behind count)).mapM LogicalLine.entry =
      (ls.mapM LogicalLine.entry).mapError (Error.behind count) :=
  mapM_entry_renumber (· + count) ls

variable {t₁ : Text}

theorem complete_of_mapM_entry {ls : List LogicalLine} {es : List (Text × Text)}
    (h : ls.mapM LogicalLine.entry = .ok es) : ∀ l ∈ ls, l.complete = true := by
  intro l hl
  have hnone := List.findSome?_eq_none_iff.mp (findSome?_error?_of_mapM_entry h) l hl
  have hsound : ¬l.IsFlawed := LogicalLine.error?_eq_none_iff.mp hnone
  simpa using (not_or.mp hsound).1

/-- The entries of natural lines that can be read stand before those of the lines behind, which stay apart from
them. -/
theorem mapM_entry_append {before : List Text} {es : List (Text × Text)}
    (h : (linesFrom 1 none before).mapM LogicalLine.entry = .ok es) (lines : List Text) :
    (linesFrom 1 none (before ++ lines)).mapM LogicalLine.entry =
      ((linesFrom (1 + before.length) none lines).mapM LogicalLine.entry).map (es ++ ·) := by
  rw [linesFrom_append (complete_of_mapM_entry h), ← linesFrom_add, List.mapM_append, h]
  cases (linesFrom (1 + before.length) none lines).mapM LogicalLine.entry <;> rfl

theorem entries_append {es₁ : List (Text × Text)} (h : entries t₁ = .ok es₁) (t₂ : Text) :
    entries (t₁ ++ .scalar '\n' :: t₂) =
      ((entries t₂).map (es₁ ++ ·)).mapError (Error.behind (lineBreakCount (t₁ ++ [.scalar '\n']))) := by
  obtain ⟨before, hread, hbefore, hlength⟩ := (lines_naturalLines t₁).exists_before
  have hlines : linesFrom 1 none before = logicalLines t₁ := by
    rcases hbefore with rfl | rfl
    · rfl
    · rw [linesFrom_append (complete_of_mapM_entry h)]
      exact List.append_nil _
  rw [entries, ← hlines] at h
  rw [entries, logicalLines, hread, mapM_entry_append h, linesFrom_add, mapM_entry_behind, hlength, entries,
    logicalLines]
  cases (linesFrom 1 none (naturalLines t₂)).mapM LogicalLine.entry <;> rfl

/-! ## Maps -/

variable {m₁ : OrderedMap Text Text}

theorem parse_append (h : parse t₁ = .ok m₁) (t₂ : Text) :
    parse (t₁ ++ .scalar '\n' :: t₂) =
      ((parse t₂).map m₁.update).mapError (Error.behind (lineBreakCount (t₁ ++ [.scalar '\n']))) := by
  obtain ⟨es₁, hentries, rfl⟩ := exists_entries_of_parse_eq_ok h
  rw [parse, entries_append hentries, parse]
  cases entries t₂ with
  | error e => rfl
  | ok es₂ => exact congrArg Except.ok (OrderedMap.ofList_append es₁ es₂)

/-- A property text behind another that can be read updates the map of that one. A key that was defined before keeps its
place and takes the new value, and new keys follow in their order. If the text cannot be read, neither can both
together, for the same reason and as many lines below as there are line breaks before. -/
theorem parse_concatenated (h : parse t₁ = .ok m₁) (t₂ : Text) :
    (∀ m₂, parse t₂ = .ok m₂ →
      parse (t₁ ++ "\n" ++ t₂) = .ok (m₁.update m₂) ∧
        (m₁.update m₂).keys = m₁.keys ++ m₂.keys.filter (· ∉ m₁.keys) ∧
        ∀ k, (m₁.update m₂).get? k = (m₂.get? k).or (m₁.get? k)) ∧
    (∀ e, parse t₂ = .error e →
      parse (t₁ ++ "\n" ++ t₂) = .error ⟨e.fault, e.line + lineBreakCount (t₁ ++ "\n")⟩) := by
  have happend := parse_append h t₂
  have htext : t₁ ++ "\n" ++ t₂ = t₁ ++ .scalar '\n' :: t₂ := List.append_assoc ..
  rw [htext]
  constructor
  · intro m₂ hm₂
    refine ⟨?_, ?_, m₁.get?_update m₂⟩
    · rw [happend, hm₂]
      rfl
    · convert m₁.keys_update m₂
  · intro e he
    rw [happend, he]
    rfl

/-- A comment that ends in a backslash and a carriage return, before a key that is defined again and before an escape
that is broken. -/
theorem parse_concatenated_comment :
    (parse ("a=1\nb=2\n# no more\\\r" ++ "\n" ++ "c=3\na=4")).map OrderedMap.toList =
        .ok [("a", "4"), ("b", "2"), ("c", "3")] ∧
      parse ("a=1\nb=2\n# no more\\\r" ++ "\n" ++ "c=3\na=\\u12") = .error ⟨.malformedEscape, 5⟩ := by
  have h : parse "a=1\nb=2\n# no more\\\r" = .ok (.ofList [("a", "1"), ("b", "2")]) := by rfl
  constructor
  · rw [((parse_concatenated h "c=3\na=4").1 (.ofList [("c", "3"), ("a", "4")]) (by rfl)).1]
    rfl
  · exact (parse_concatenated h "c=3\na=\\u12").2 ⟨.malformedEscape, 2⟩ (by rfl)

end Properties

end Invocation
