import Invocation.Proofs.Terminal.Drawing

/-!
# Lines of marked texts

A text whose styles make sense can be drawn, however it is broken into lines: no line has a stretch in a style that the
text has not, and none has a surrogate unless the text has one.
-/

namespace Invocation

/-! ## Outcomes -/

section

variable {α β ε : Type} {P : α → Prop} {Q : β → Prop}

/-- There is a value, and `P` holds for it. -/
def SucceedsWith (made : Except ε α) (P : α → Prop) : Prop := ∃ a, made = .ok a ∧ P a

theorem succeedsWith_pure {a : α} (h : P a) : SucceedsWith (pure a : Except ε α) P := ⟨a, rfl, h⟩

theorem SucceedsWith.bind {made : Except ε α} {next : α → Except ε β} (h : SucceedsWith made P)
    (hnext : ∀ a, P a → SucceedsWith (next a) Q) : SucceedsWith (made >>= next) Q := by
  obtain ⟨a, rfl, ha⟩ := h
  exact hnext a ha

theorem succeedsWith_mapM {f : α → Except ε β} {xs : List α} (h : ∀ x ∈ xs, SucceedsWith (f x) Q) :
    SucceedsWith (xs.mapM f) fun ys => ∀ y ∈ ys, Q y := by
  induction xs with
  | nil => exact succeedsWith_pure fun _ hy => absurd hy List.not_mem_nil
  | cons x xs ih =>
      obtain ⟨hx, hrest⟩ := List.forall_mem_cons.mp h
      rw [List.mapM_cons]
      exact hx.bind fun y hy => (ih hrest).bind fun ys hys => succeedsWith_pure (List.forall_mem_cons.mpr ⟨hy, hys⟩)

theorem succeedsWith_forM {f : α → Except ε PUnit} {xs : List α} (h : ∀ x ∈ xs, SucceedsWith (f x) fun _ => True) :
    SucceedsWith (xs.forM f) fun _ => True := by
  induction xs with
  | nil => exact succeedsWith_pure trivial
  | cons x xs ih =>
      obtain ⟨hx, hrest⟩ := List.forall_mem_cons.mp h
      exact hx.bind fun _ _ => ih hrest

/-- If a step fails, then all of them do. -/
theorem exists_mapM_eq_error {f : α → Except ε β} {xs : List α} {x : α} (hx : x ∈ xs) (h : ∃ e, f x = .error e) :
    ∃ e, xs.mapM f = .error e := by
  induction xs with
  | nil => cases hx
  | cons y ys ih =>
      rw [List.mapM_cons]
      cases hy : f y with
      | error e => exact ⟨e, rfl⟩
      | ok z =>
          obtain rfl | hx := List.mem_cons.mp hx
          · obtain ⟨e, he⟩ := h
            rw [he] at hy
            cases hy
          · obtain ⟨e, he⟩ := ih hx
            exact ⟨e, by rw [he]; rfl⟩

end

namespace Terminal

/-! ## Sound texts -/

/-- All of the text can be drawn and written. -/
structure MarkedText.IsSound (m : MarkedText) : Prop where
  writable : m.text.IsWritable
  styles : m.HasStyles

/-- Markup without a surrogate is sound if its tags make sense. -/
theorem Reads.isSound {markup : Text} (h : Reads markup) (hmarkup : markup.IsWritable) :
    SucceedsWith (MarkedText.ofMarkup markup) MarkedText.IsSound := by
  obtain ⟨m, hm, hstyles⟩ := h
  exact ⟨m, hm, isWritable_of_ofPieces (arePiecesWritable_markupPieces hmarkup 0 .nil 0) hm, hstyles⟩

namespace MarkedText.IsSound

variable {m : MarkedText} (h : m.IsSound)

theorem empty : IsSound .empty := ⟨.nil, fun _ hs => absurd hs List.not_mem_nil⟩

theorem plain {t : Text} (ht : t.IsWritable) : IsSound ⟨t, []⟩ := ⟨ht, fun _ hs => absurd hs List.not_mem_nil⟩

include h

/-- A text without styles of its own. -/
theorem narrowed {u : Text} {spans : List Span} (hu : u.IsWritable)
    (hspans : ∀ s ∈ spans, ∃ whole ∈ m.spans, whole.style = s.style) : IsSound ⟨u, spans⟩ := by
  refine ⟨hu, fun s hs => ?_⟩
  obtain ⟨whole, hwhole, hstyle⟩ := hspans s hs
  rw [← hstyle]
  exact h.styles whole hwhole

omit h in
theorem exists_of_mem_spansUpTo {count : Nat} {s : Span} (hs : s ∈ m.spansUpTo count) :
    ∃ whole ∈ m.spans, whole.style = s.style := by
  obtain ⟨whole, hwhole, rfl⟩ := List.mem_map.mp hs
  exact ⟨whole, List.mem_of_mem_filter hwhole, rfl⟩

theorem partsFrom (gap place : Nat) {ps : List Text} (hps : ∀ p ∈ ps, p.IsWritable) :
    ∀ part ∈ m.partsFrom gap place ps, part.IsSound := by
  induction ps generalizing place with
  | nil => exact fun _ hpart => absurd hpart List.not_mem_nil
  | cons p ps ih =>
      obtain ⟨hp, hrest⟩ := List.forall_mem_cons.mp hps
      refine List.forall_mem_cons.mpr ⟨h.narrowed hp fun s hs => ?_, ih _ hrest⟩
      obtain ⟨whole, hwhole, rfl⟩ := List.mem_map.mp (List.mem_of_mem_filter hs)
      exact ⟨whole, hwhole, rfl⟩

theorem parts (gap : Nat) {ps : List Text} (hps : ∀ p ∈ ps, p.IsWritable) : ∀ part ∈ m.parts gap ps, part.IsSound := by
  rw [MarkedText.parts.eq_def]
  split
  · rename_i p
    exact List.forall_mem_singleton.mpr ⟨hps p List.mem_cons_self, h.styles⟩
  · exact h.partsFrom gap 0 hps

theorem crop (count : Nat) : (m.crop count).IsSound := by
  rw [MarkedText.crop]
  split
  · exact h.narrowed (h.writable.of_subset fun _ hc => List.mem_of_mem_take hc) fun _ hs => exists_of_mem_spansUpTo hs
  · exact h

theorem lines : ∀ line ∈ m.lines, line.IsSound := h.parts 1 fun _ hp => h.writable.splitAll hp

theorem expandTabs : m.expandTabs.IsSound := by
  rw [MarkedText.expandTabs]
  split
  · refine h.narrowed (isWritable_expandTabs h.writable) fun s hs => ?_
    obtain ⟨whole, hwhole, rfl⟩ := List.mem_map.mp hs
    exact ⟨whole, List.mem_of_mem_filter hwhole, rfl⟩
  · exact h

variable (o : Overflow) (width : Nat)

theorem broken : ∀ line ∈ m.broken o width, line.IsSound :=
  h.parts 0 (isWritable_of_mem_fillLines o width (isWritable_of_mem_spacedWords h.writable) .nil 0)

theorem cut : (m.cut o width).IsSound := by
  refine h.narrowed (isWritable_cut o width h.writable) fun s hs => ?_
  split at hs
  · exact exists_of_mem_spansUpTo hs
  · exact ⟨s, hs, rfl⟩

theorem wrapped : ∀ line ∈ m.wrapped o width, line.IsSound := by
  intro l hl
  obtain ⟨line, hline, hl⟩ := List.mem_flatMap.mp hl
  obtain ⟨broken, hbroken, rfl⟩ := List.mem_map.mp hl
  exact ((((h.lines line hline).expandTabs.broken o width) broken hbroken).crop _).cut o width

theorem checked : SucceedsWith (m.spans.forM fun s => do
    let _ ← (styleOf? s.style).mapError MarkupFault.style) fun _ => True := by
  refine succeedsWith_forM fun s hs => ?_
  obtain ⟨style, hstyle⟩ := h.styles s hs
  rw [hstyle]
  exact succeedsWith_pure trivial

/-- A sound text is drawn, however it is broken into lines. -/
theorem drawn : SucceedsWith (m.drawn o width) fun lines => ∀ line ∈ lines, line.IsWritable := by
  rw [MarkedText.drawn]
  split
  · exact succeedsWith_pure fun _ hline => absurd hline List.not_mem_nil
  · refine succeedsWith_mapM fun line hline => ?_
    have hsound := h.wrapped o width line hline
    exact hsound.checked.bind fun _ _ => succeedsWith_pure hsound.writable

end MarkedText.IsSound

end Terminal

end Invocation
