import Invocation.Shell.Wrap

/-!
# What may be seen of an argument list

Of a secret argument only its place may be seen, of any other its text. All that is shown of a list is made of this.
-/

namespace Invocation

/-- The text of an argument, if it is no secret. -/
def Argument.visible (a : Argument) : Option Text := if a.secret then none else some a.value

namespace Argument

theorem secret_eq (a : Argument) : a.secret = a.visible.isNone := by
  cases h : a.secret <;> simp [visible, h]

theorem shown_eq (a : Argument) : a.shown = a.visible.getD placeholder := by
  cases h : a.secret <;> simp [visible, shown, h]

theorem eq_of_visible {a b : Argument} (h : a.visible = b.visible) (ha : a.secret = false) : a = b := by
  have hb : b.secret = false := by rw [secret_eq, ← h, ← secret_eq, ha]
  cases a; cases b
  simp_all [visible]

end Argument

namespace Arguments

def visible (as : Arguments) : List (Option Text) := as.map Argument.visible

@[simp] theorem visible_append (as bs : Arguments) : visible (as ++ bs) = visible as ++ visible bs :=
  List.map_append

theorem visible_flatMap {α : Type} (f : α → Arguments) (xs : List α) :
    visible (xs.flatMap f) = xs.flatMap fun x => (f x).visible :=
  List.map_flatMap

theorem visible_plain (ts : List Text) : visible (ts.map Argument.plain) = ts.map some := by
  simp [visible, Argument.visible, Argument.plain]

variable {as bs : Arguments}

/-- What is made of the visible part of each argument is the same for lists that look the same. -/
theorem map_eq_of_visible {α : Type} {f : Argument → α} (g : Option Text → α) (hf : ∀ a, f a = g a.visible)
    (h : as.visible = bs.visible) : as.map f = bs.map f := by
  have hmap (cs : Arguments) : cs.map f = cs.visible.map g := by simp [visible, hf]
  rw [hmap, hmap, h]

theorem flags_eq_of_visible (h : as.visible = bs.visible) : as.flags = bs.flags :=
  map_eq_of_visible Option.isNone Argument.secret_eq h

theorem shownValues_eq_of_visible (h : as.visible = bs.visible) : as.shownValues = bs.shownValues :=
  map_eq_of_visible (Option.getD · placeholder) Argument.shown_eq h

theorem redacted_eq_of_visible (h : as.visible = bs.visible) : as.redacted = bs.redacted :=
  map_eq_of_visible (fun v => Argument.plain (v.getD placeholder)) (fun a => by simp [Argument.redacted, a.shown_eq]) h

theorem hasSecret_eq_of_visible (h : as.visible = bs.visible) : as.hasSecret = bs.hasSecret := by
  have hany (cs : Arguments) : cs.hasSecret = cs.flags.any id := by simp [hasSecret, flags]
  rw [hany, hany, flags_eq_of_visible h]

theorem maskedDisplay_eq_of_visible (h : as.visible = bs.visible) : as.maskedDisplay = bs.maskedDisplay := by
  refine congrArg (Text.joinWith " ") (map_eq_of_visible (fun v => (v.map Text.forDisplay).getD placeholder) ?_ h)
  intro a
  cases ha : a.secret <;> simp [Argument.visible, ha]

/-- Lists without secrets that look the same are the same. -/
theorem eq_of_visible (h : as.visible = bs.visible) (hs : as.hasSecret = false) : as = bs := by
  induction as generalizing bs with
  | nil => simpa [visible] using h.symm
  | cons a as ih =>
      cases bs with
      | nil => simp [visible] at h
      | cons b bs =>
          simp only [visible, List.map_cons, List.cons.injEq] at h
          simp only [hasSecret, List.any_cons, Bool.or_eq_false_iff] at hs
          rw [Argument.eq_of_visible h.1 hs.1, ih h.2 hs.2]

/-- Of secrets only their number can be seen. -/
theorem visible_of_secret (h : ∀ a ∈ as, a.secret = true) : as.visible = List.replicate as.length none := by
  refine List.eq_replicate_iff.mpr ⟨by simp [visible], fun v hv => ?_⟩
  obtain ⟨a, ha, rfl⟩ := List.mem_map.mp hv
  simp [Argument.visible, h a ha]

/-- A wrapped command is hidden as soon as it holds a secret; without one it is the same for lists that look the
same. -/
theorem visible_wrapHiding (h : as.visible = bs.visible) :
    visible (Shell.wrapHiding as) = visible (Shell.wrapHiding bs) := by
  have hsecret := hasSecret_eq_of_visible h
  cases hs : as.hasSecret with
  | true => simp [Shell.wrapHiding_eq, visible, Argument.visible, ← hsecret, hs]
  | false => rw [eq_of_visible h hs]

end Arguments

end Invocation
