import Invocation.Proofs.Text.Basic
import Invocation.Proofs.Text.Pieces
import Invocation.Terminal.Lines

/-!
# What a terminal shows

Of a text without markup a terminal shows everything but tabs and the controls that move the cursor; nothing comes in
but spaces up to the next tab stop.
-/

namespace Invocation

namespace Terminal

variable {t : Text}

/-! ## Tabs -/

theorem expandTabs_cases (t : Text) :
    ∃ pieces last, (t.splitAll fun c => c = .scalar '\t') = pieces ++ [last] ∧
      expandTabs t = pieces.flatMap upToTabStop ++ last := by
  have hne : (t.splitAll fun c => c = .scalar '\t') ≠ [] := by
    rw [Text.splitAll_eq_splitOnP]
    exact List.splitOnP_ne_nil _ _
  refine ⟨_, _, (List.dropLast_concat_getLast hne).symm, ?_⟩
  rw [expandTabs, List.getLastD_eq_getLast?, List.getLast?_eq_some_getLast hne]
  rfl

theorem mem_upToTabStop {piece : Text} {c : CodePoint} (h : c ∈ upToTabStop piece) : c ∈ piece ∨ c = .scalar ' ' := by
  rw [upToTabStop, List.mem_append, List.mem_append] at h
  obtain (h | h) | h := h
  · exact .inl h
  · exact .inr (List.mem_singleton.mp h)
  · exact .inr (List.eq_of_mem_replicate h)

theorem mem_expandTabs {c : CodePoint} (h : c ∈ expandTabs t) : (c ∈ t ∧ c ≠ .scalar '\t') ∨ c = .scalar ' ' := by
  obtain ⟨pieces, last, hpieces, hexpanded⟩ := expandTabs_cases t
  have hkept {piece : Text} (hmem : piece ∈ pieces ++ [last]) (hc : c ∈ piece) : c ∈ t ∧ c ≠ .scalar '\t' :=
    (Text.mem_of_mem_splitAll (hpieces ▸ hmem) c hc).imp_right of_decide_eq_false
  rw [hexpanded, List.mem_append, List.mem_flatMap] at h
  obtain ⟨piece, hmem, h⟩ | h := h
  · exact (mem_upToTabStop h).imp_left (hkept (List.mem_append_left _ hmem))
  · exact .inl (hkept (List.mem_append_right _ List.mem_cons_self) h)

theorem expandTabs_eq_self (h : .scalar '\t' ∉ t) : expandTabs t = t := by
  have hone : (t.splitAll fun c => c = .scalar '\t') = [t] :=
    Text.splitAll_eq_self fun c hc => decide_eq_false fun heq => h (heq ▸ hc)
  simp [expandTabs, hone]

/-! ## Lines -/

/-- No tab is left, and nothing that moves the cursor. -/
theorem stays_onTerminal {c : CodePoint} (h : c ∈ onTerminal t) : c ≠ .scalar '\t' ∧ movesCursor c = false := by
  obtain h | ⟨line, hline, h⟩ := Text.mem_joinWith h
  · rw [List.mem_singleton.mp h]
    decide
  · obtain ⟨line, hmem, rfl⟩ := List.mem_map.mp hline
    obtain ⟨h, htab⟩ | rfl := mem_expandTabs h
    · have hkept : c ∈ withoutMoves t := (Text.mem_of_mem_splitAll hmem c h).1
      exact ⟨htab, by simpa using (List.mem_filter.mp hkept).2⟩
    · decide

theorem onTerminal_eq_self_iff : onTerminal t = t ↔ ∀ c ∈ t, c ≠ .scalar '\t' ∧ movesCursor c = false := by
  refine ⟨fun h c hc => stays_onTerminal (h.symm ▸ hc), fun h => ?_⟩
  have hmoves : withoutMoves t = t := List.filter_eq_self.mpr fun c hc => by simp [(h c hc).2]
  have hline (line : Text) (hline : line ∈ linesOf t) : expandTabs line = line := expandTabs_eq_self fun htab => by
    rw [linesOf, hmoves] at hline
    exact (h _ (Text.mem_of_mem_splitAll hline _ htab).1).1 rfl
  have hlines : (linesOf t).map expandTabs = linesOf t := (List.map_congr_left hline).trans (List.map_id' _)
  rw [onTerminal, hlines, linesOf, hmoves]
  exact Text.joinWith_splitAll (.scalar '\n') t

section filter

/-! ## What is kept -/

variable {p : CodePoint → Bool} (hspace : p (.scalar ' ') = false) (htab : p (.scalar '\t') = false)
include hspace

theorem filter_upToTabStop (piece : Text) : (upToTabStop piece).filter p = piece.filter p := by
  simp [upToTabStop, Text.fill, Text.ofString, hspace]

include htab

theorem filter_expandTabs (t : Text) : (expandTabs t).filter p = t.filter p := by
  obtain ⟨pieces, last, hpieces, hexpanded⟩ := expandTabs_cases t
  have hspaces : (pieces.flatMap upToTabStop).filter p = pieces.flatten.filter p := by
    simp only [List.filter_flatMap, filter_upToTabStop hspace, List.filter_flatten]
    rfl
  calc (expandTabs t).filter p
      = (pieces ++ [last]).flatten.filter p := by simp [hexpanded, hspaces]
    _ = t.filter p := by
        rw [← hpieces, Text.filter_flatten_splitAll fun c hc => by rw [of_decide_eq_true hc, htab]]

/-- Nothing is lost of a text but line breaks, spaces, tabs and what moves the cursor, and nothing else comes in. -/
theorem filter_onTerminal (hbreak : p (.scalar '\n') = false) (hmoves : ∀ c, movesCursor c = true → p c = false)
    (t : Text) : (onTerminal t).filter p = t.filter p := by
  have hjoined (lines : List Text) : (Text.joinWith "\n" (lines.map expandTabs)).filter p = lines.flatten.filter p := by
    cases lines with
    | nil => rfl
    | cons line lines =>
        rw [List.map_cons, Text.joinWith_cons, List.filter_append, filter_expandTabs hspace htab, List.flatten_cons,
          List.filter_append, List.filter_flatMap, List.filter_flatten, List.flatMap_map]
        simp [Text.ofString, hbreak, filter_expandTabs hspace htab, List.flatMap_def]
  calc (onTerminal t).filter p
      = (linesOf t).flatten.filter p := hjoined _
    _ = (withoutMoves t).filter p := Text.filter_flatten_splitAll (fun c hc => by rw [of_decide_eq_true hc, hbreak]) _
    _ = t.filter p := by
        rw [withoutMoves, List.filter_filter]
        refine List.filter_congr fun c _ => ?_
        cases hc : movesCursor c with
        | false => simp
        | true => simp [hmoves c hc]

end filter

end Terminal

end Invocation
