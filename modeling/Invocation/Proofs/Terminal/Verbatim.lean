import Invocation.Proofs.Terminal.Drawing

/-!
# Texts that show themselves

A text that is printed plainly is not taken for markup and not broken, but tabs, the controls that move the cursor and
the codes of emoji are not shown. So the texts that are shown as they are, are those without any of them.
-/

namespace Invocation

namespace Terminal

variable {t : Text}

theorem colons_onTerminal (t : Text) : colons (onTerminal t) = colons t := by
  rw [colons, colons, List.countP_eq_length_filter, List.countP_eq_length_filter,
    filter_onTerminal (by decide) (by decide) (by decide) fun c hc => ?_]
  refine decide_eq_false ?_
  rintro rfl
  exact absurd hc (by decide)

/-- The text can be written, nothing in it is drawn in another way or left out, and none of its codes stands for an
emoji. -/
structure ShowsItself (t : Text) : Prop where
  writable : t.IsWritable
  stays : ∀ c ∈ t, c ≠ .scalar '\t' ∧ movesCursor c = false
  codes : ∃ names, HasCodes t names ∧ ∀ name ∈ names, isEmoji name = false

/-- A text is shown as it is if and only if it stays as it is in each of the two steps: since the second one keeps all
colons, it cannot undo the first. -/
theorem showsItself_iff :
    ShowsItself t ↔ (onTerminal (withEmoji t)).IsWritable ∧ onTerminal (withEmoji t) = t := by
  constructor
  · rintro ⟨hwritable, hstays, names, hnames, hnone⟩
    have hshown : onTerminal (withEmoji t) = t := by
      rw [withEmoji_eq_self hnames hnone, onTerminal_eq_self_iff.mpr hstays]
    exact ⟨hshown.symm ▸ hwritable, hshown⟩
  · rintro ⟨hwritable, hshown⟩
    obtain ⟨names, hnames⟩ := exists_hasCodes t
    have hcolons : colons (withEmoji t) = colons t := by rw [← colons_onTerminal, hshown]
    have hnone : ∀ name ∈ names, isEmoji name = false := isEmoji_eq_false_of_colons hnames hcolons
    have hsame : withEmoji t = t := withEmoji_eq_self hnames hnone
    rw [hsame] at hshown
    rw [hsame, hshown] at hwritable
    exact ⟨hwritable, onTerminal_eq_self_iff.mp hshown, names, hnames, hnone⟩

theorem showsItself_ofString {s : String} (hcolon : .scalar ':' ∉ Text.ofString s)
    (hstays : ∀ c ∈ Text.ofString s, c ≠ .scalar '\t' ∧ movesCursor c = false) : ShowsItself s :=
  ⟨.ofString s, hstays, [], hasCodes_of_not_mem hcolon, by simp⟩

end Terminal

end Invocation
