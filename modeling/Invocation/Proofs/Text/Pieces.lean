import Invocation.Text.Basic

/-!
# Pieces of a text

The pieces of a text hold no separator and everything else. With the separator between them they are the text again.
-/

namespace Invocation

namespace Text

variable {p : CodePoint → Bool} {t piece : Text}

theorem splitAll_eq_splitOnP (p : CodePoint → Bool) (t : Text) : t.splitAll p = t.splitOnP p := by
  induction t with
  | nil => rfl
  | cons c t ih =>
      obtain ⟨piece, pieces, hpieces⟩ := List.exists_cons_of_ne_nil (List.splitOnP_ne_nil p t)
      rw [List.splitOnP_cons_eq_if_modifyHead, splitAll, ih, hpieces]
      cases p c <;> rfl

theorem splitAll_eq_self (h : ∀ c ∈ t, p c = false) : t.splitAll p = [t] := by
  rw [splitAll_eq_splitOnP, List.splitOnP_eq_singleton h]

/-- A separator ends the last piece of what stands before it. -/
theorem splitAll_append {c : CodePoint} (hc : p c = true) (a b : Text) :
    splitAll p (a ++ c :: b) = a.splitAll p ++ b.splitAll p := by
  rw [splitAll_eq_splitOnP, splitAll_eq_splitOnP, splitAll_eq_splitOnP, List.splitOnP_append_cons a b hc]

/-- Nothing is lost but the separators. -/
theorem flatten_splitAll (p : CodePoint → Bool) (t : Text) : (t.splitAll p).flatten = t.filter fun c => !p c := by
  induction t with
  | nil => rfl
  | cons c t ih =>
      rw [splitAll, List.filter_cons, ← ih]
      cases p c with
      | true => rfl
      | false => cases splitAll p t <;> rfl

/-- Separators that are left out anyway make no difference. -/
theorem filter_flatten_splitAll {q : CodePoint → Bool} (h : ∀ c, p c = true → q c = false) (t : Text) :
    (t.splitAll p).flatten.filter q = t.filter q := by
  rw [flatten_splitAll, List.filter_filter]
  refine List.filter_congr fun c _ => ?_
  cases hc : p c with
  | false => simp
  | true => simp [h c hc]

theorem mem_of_mem_splitAll (h : piece ∈ t.splitAll p) : ∀ c ∈ piece, c ∈ t ∧ p c = false := by
  intro c hc
  have hmem : c ∈ (t.splitAll p).flatten := List.mem_flatten.mpr ⟨piece, h, hc⟩
  rw [flatten_splitAll, List.mem_filter] at hmem
  exact hmem.imp_right (by simp)

theorem joinWith_splitAll (c : CodePoint) (t : Text) : joinWith [c] (t.splitAll fun d => d = c) = t := by
  have hsplit : t.splitAll (fun d => d = c) = t.splitOn c := by
    rw [splitAll_eq_splitOnP, List.splitOn_eq_splitOnP]
    exact congrArg (t.splitOnP ·) (funext fun _ => rfl)
  rw [joinWith, hsplit, List.intercalate_splitOn]

end Text

end Invocation
