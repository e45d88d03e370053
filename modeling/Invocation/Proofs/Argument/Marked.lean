import Mathlib.Data.Finset.Image
import Invocation.Proofs.Argument.Growth

/-!
# Sequences with marks

The arguments of a list and its secrets may be kept apart: a sequence of texts, and the set of the positions that are
marked as secret. A list of arguments follows such a sequence, although it knows of no positions, however both grow.
-/

namespace Invocation

/-- A sequence of texts, some of whose positions are marked. -/
@[ext] structure Marked where
  texts : List Text
  marks : Finset Nat
  lt_length : ∀ i ∈ marks, i < texts.length

namespace Marked

/-! ## Operations -/

def empty : Marked := ⟨[], ∅, by simp⟩

/-- No position is marked. -/
def ofTexts (ts : List Text) : Marked := ⟨ts, ∅, by simp⟩

/-- The text at the end; its position is marked if it is secret. -/
def push (secret : Bool) (m : Marked) (t : Text) : Marked where
  texts := m.texts ++ [t]
  marks := if secret then insert m.texts.length m.marks else m.marks
  lt_length := by
    intro i hi
    have hm := m.lt_length i
    simp only [List.length_append, List.length_singleton]
    cases secret with
    | false => exact Nat.lt_succ_of_lt (hm hi)
    | true =>
        rcases Finset.mem_insert.mp hi with rfl | hi
        · exact Nat.lt_succ_self _
        · exact Nat.lt_succ_of_lt (hm hi)

def pushAll (m : Marked) (secret : Bool) (ts : List Text) : Marked := ts.foldl (push secret) m

/-- The texts in front; the marks move on with what they mark. -/
def prepend (m : Marked) (ts : List Text) : Marked where
  texts := ts ++ m.texts
  marks := m.marks.image (· + ts.length)
  lt_length := by
    intro i hi
    obtain ⟨j, hj, rfl⟩ := Finset.mem_image.mp hi
    have hlt := m.lt_length j hj
    simp only [List.length_append]
    omega

/-! ## Marks as flags -/

/-- For each position whether it is marked. -/
def mask (m : Marked) : List Bool := (List.range m.texts.length).map fun i => decide (i ∈ m.marks)

theorem getElem?_mask {m : Marked} {i : Nat} : m.mask[i]? = some true ↔ i ∈ m.marks := by
  have hlt := m.lt_length i
  simp only [mask, List.getElem?_map, Option.map_eq_some_iff]
  grind

theorem mask_push (secret : Bool) (m : Marked) (t : Text) : (m.push secret t).mask = m.mask ++ [secret] := by
  -- no mark is set beyond the end, so the new position is marked only by this step
  have hnew : m.texts.length ∉ m.marks := fun h => Nat.lt_irrefl _ (m.lt_length _ h)
  have hlast : decide (m.texts.length ∈ (m.push secret t).marks) = secret := by
    cases secret <;> simp [push, hnew]
  have hold : ∀ i ∈ List.range m.texts.length,
      decide (i ∈ (m.push secret t).marks) = decide (i ∈ m.marks) := by
    intro i hi
    have hne : i ≠ m.texts.length := Nat.ne_of_lt (List.mem_range.mp hi)
    cases secret <;> simp [push, hne]
  have hlen : (m.push secret t).texts.length = m.texts.length + 1 := by simp [push]
  rw [mask, hlen, List.range_succ, List.map_append, List.map_congr_left hold, List.map_singleton, hlast, mask]

theorem mask_prepend (m : Marked) (ts : List Text) :
    (m.prepend ts).mask = List.replicate ts.length false ++ m.mask := by
  have hfront : ∀ i ∈ List.range ts.length, decide (i ∈ (m.prepend ts).marks) = false := by
    intro i hi
    have hlt := List.mem_range.mp hi
    simp only [prepend, Finset.mem_image, decide_eq_false_iff_not]
    rintro ⟨j, -, rfl⟩
    omega
  have hlen : (m.prepend ts).texts.length = ts.length + m.texts.length := by simp [prepend]
  rw [mask, hlen, List.range_add, List.map_append, List.map_congr_left hfront, List.map_const', List.length_range]
  simp [mask, prepend, Function.comp_def, Nat.add_comm]

/-- A sequence with marks is known by its texts and its mask. -/
theorem ext_mask {m n : Marked} (ht : m.texts = n.texts) (hm : m.mask = n.mask) : m = n := by
  ext i
  · rw [ht]
  · rw [← getElem?_mask, ← getElem?_mask, hm]

/-! ## What is shown -/

def display (m : Marked) : Text := Text.joinWith " " (m.texts.map Text.forDisplay)

def maskedDisplay (m : Marked) : Text :=
  Text.joinWith " " (m.texts.mapIdx fun i t => if i ∈ m.marks then placeholder else t.forDisplay)

end Marked

/-! ## Lists that follow a sequence -/

namespace Arguments

/-- The list holds the texts of the sequence, and those of them are secret that are marked. -/
structure Follows (as : Arguments) (m : Marked) : Prop where
  values : as.values = m.texts
  flags : as.flags = m.mask

variable {as bs : Arguments} {m n : Marked}

theorem eq_of_values_of_flags (hv : as.values = bs.values) (hf : as.flags = bs.flags) : as = bs := by
  induction as generalizing bs with
  | nil => exact (List.map_eq_nil_iff.mp hv.symm).symm
  | cons a as ih =>
      obtain ⟨b, bs, rfl, hvalue, hvalues⟩ := List.map_eq_cons_iff.mp hv.symm
      obtain ⟨hsecret, hflags⟩ := List.cons_eq_cons.mp hf
      obtain ⟨value, secret⟩ := b
      cases hvalue
      cases hsecret
      rw [ih hvalues.symm hflags]

namespace Follows

theorem eq_iff (ha : as.Follows m) (hb : bs.Follows n) : as = bs ↔ m = n := by
  constructor
  · rintro rfl
    exact Marked.ext_mask (ha.values.symm.trans hb.values) (ha.flags.symm.trans hb.flags)
  · rintro rfl
    exact eq_of_values_of_flags (ha.values.trans hb.values.symm) (ha.flags.trans hb.flags.symm)

theorem nil : Follows [] .empty := ⟨rfl, rfl⟩

theorem map_plain (ts : List Text) : Follows (ts.map Argument.plain) (.ofTexts ts) where
  values := values_map_plain ts
  flags := by simp [Marked.mask, Marked.ofTexts, List.map_const']

theorem push (h : as.Follows m) (secret : Bool) (t : Text) : Follows (as ++ [⟨t, secret⟩]) (m.push secret t) where
  values := by rw [values_append, h.values]; rfl
  flags := by rw [flags_append, h.flags, Marked.mask_push]; rfl

theorem pushAll (h : as.Follows m) (secret : Bool) (ts : List Text) :
    Follows (as ++ ts.map fun t => ⟨t, secret⟩) (m.pushAll secret ts) := by
  induction ts generalizing as m with
  | nil => simpa [Marked.pushAll] using h
  | cons t ts ih => simpa [Marked.pushAll] using ih (h.push secret t)

theorem prepend (h : as.Follows m) (ts : List Text) : Follows (ts.map Argument.plain ++ as) (m.prepend ts) where
  values := by simp [h.values, Marked.prepend]
  flags := by simp [h.flags, Marked.mask_prepend]

/-! ### What is read from the list -/

theorem length (h : as.Follows m) : as.length = m.texts.length := by
  rw [← h.values, Arguments.values, List.length_map]

theorem secret_getElem (h : as.Follows m) {i : Nat} {a : Argument} (ha : as[i]? = some a) :
    a.secret = true ↔ i ∈ m.marks := by
  rw [← Marked.getElem?_mask, ← h.flags, Arguments.flags, List.getElem?_map, ha]
  simp

theorem hasSecret_iff (h : as.Follows m) : as.hasSecret = true ↔ m.marks.Nonempty := by
  simp only [hasSecret, List.any_eq_true, Finset.Nonempty]
  constructor
  · rintro ⟨a, ha, hsecret⟩
    obtain ⟨i, hi⟩ := List.mem_iff_getElem?.mp ha
    exact ⟨i, (h.secret_getElem hi).mp hsecret⟩
  · rintro ⟨i, hi⟩
    have hlt : i < as.length := h.length ▸ m.lt_length i hi
    have hget : as[i]? = some as[i] := List.getElem?_eq_getElem hlt
    exact ⟨as[i], List.getElem_mem hlt, (h.secret_getElem hget).mpr hi⟩

theorem display (h : as.Follows m) : as.display = m.display := by
  rw [Arguments.display, Marked.display, ← h.values, Arguments.values, List.map_map]
  rfl

theorem maskedDisplay (h : as.Follows m) : as.maskedDisplay = m.maskedDisplay := by
  have hmap : (as.map fun a => if a.secret then placeholder else a.value.forDisplay) =
      m.texts.mapIdx fun i t => if i ∈ m.marks then placeholder else t.forDisplay := by
    refine List.ext_getElem? fun i => ?_
    rw [← h.values, Arguments.values, List.getElem?_mapIdx, List.getElem?_map, List.getElem?_map]
    cases ha : as[i]? with
    | none => rfl
    | some a => simp [h.secret_getElem ha]
  rw [Arguments.maskedDisplay, Marked.maskedDisplay, hmap]

end Follows

/-- Whatever is read from the list is what the sequence and its marks say. -/
structure Presents (as : Arguments) (m : Marked) : Prop where
  values : as.values = m.texts
  flags : as.flags = m.mask
  hasSecret : as.hasSecret = true ↔ m.marks.Nonempty
  length : as.length = m.texts.length
  display : as.display = m.display
  maskedDisplay : as.maskedDisplay = m.maskedDisplay

theorem Follows.presents (h : as.Follows m) : as.Presents m :=
  ⟨h.values, h.flags, h.hasSecret_iff, h.length, h.display, h.maskedDisplay⟩

end Arguments

end Invocation
