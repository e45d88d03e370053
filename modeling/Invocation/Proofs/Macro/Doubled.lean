import Invocation.Macro.Recorder
import Invocation.Proofs.Macro.Pieces

/-!
# Doubled dollar signs

A text with every dollar sign doubled has no references in it, whatever follows the signs. It expands to the text
itself, and what is put behind it expands as it does alone.
-/

namespace Invocation

/-- The text with every dollar sign written twice. -/
def Text.doubled (t : Text) : Text := t.flatMap fun c => if c = .scalar '$' then [c, c] else [c]

namespace Text

theorem doubled_dollar (t : Text) : doubled (.scalar '$' :: t) = .scalar '$' :: .scalar '$' :: t.doubled := rfl

theorem doubled_of_ne {c : CodePoint} (h : c ≠ .scalar '$') (t : Text) : doubled (c :: t) = c :: t.doubled := by
  rw [doubled, List.flatMap_cons, if_neg h]
  rfl

end Text

namespace Macro

/-- The second sign of a pair is taken by the first, so the reading goes on behind the pair: no run of signs, however
long, reaches into what follows it. -/
theorem Reads.doubled_append {rest : Text} {ps : List Piece} (h : Reads rest ps) (t : Text) :
    Reads (t.doubled ++ rest) (t.map (fun c => if c = .scalar '$' then .dollar else .literal c) ++ ps) := by
  induction t with
  | nil => exact h
  | cons c t ih =>
      rw [List.map_cons, List.cons_append]
      by_cases hc : c = .scalar '$'
      · subst hc
        rw [if_pos rfl, Text.doubled_dollar]
        exact .dollar ih
      · rw [if_neg hc, Text.doubled_of_ne hc]
        exact .literal hc ih

namespace Scope

theorem expand_doubled_append (s : Scope) (t rest : Text) :
    s.expand (t.doubled ++ rest) = ⟨t ++ (s.expand rest).text, (s.expand rest).warnings⟩ := by
  have hpiece (c : CodePoint) : s.expandPiece (if c = .scalar '$' then .dollar else .literal c) = ⟨[c], []⟩ := by
    split
    · rename_i hc
      rw [hc]
      rfl
    · rfl
  rw [expand, pieces_eq_of_reads ((reads_pieces rest).doubled_append t), expandPieces]
  simp [expand, expandPieces, List.flatMap_map, hpiece]

theorem expand_nil (s : Scope) : s.expand [] = ⟨[], []⟩ := by
  rw [expand, pieces]
  rfl

theorem expand_doubled (s : Scope) (t : Text) : s.expand t.doubled = ⟨t, []⟩ := by
  have h := s.expand_doubled_append t []
  rwa [expand_nil, List.append_nil, List.append_nil] at h

end Scope

/-- Text with doubled dollar signs expands to the text that was doubled, without a warning, whatever has a value: so a
recorder keeps nothing of it. Nor does the text reach into what stands behind it, which is expanded as if it stood
alone. -/
theorem Recorder.preview_doubled (r : Recorder) (t : Text) :
    r.preview t.doubled = ⟨t, []⟩ ∧ r.expand t.doubled = (t, r) ∧
    ∀ rest, r.preview (t.doubled ++ rest) = ⟨t ++ (r.preview rest).text, (r.preview rest).warnings⟩ := by
  have hpreview : r.preview t.doubled = ⟨t, []⟩ := r.scope.expand_doubled t
  refine ⟨hpreview, ?_, r.scope.expand_doubled_append t⟩
  rw [expand, hpreview, List.append_nil]

end Macro

end Invocation
