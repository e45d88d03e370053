import Mathlib.Data.List.Forall2
import Invocation.Proofs.OrderedMap

/-!
# Merging

Maps that are merged one after the other: the last of them that has a key gives its value, and the first that has it
gives its place. Where the maps have to be loaded first, the first that cannot be loaded ends it.
-/

namespace Invocation

namespace OrderedMap

variable {κ α : Type} [DecidableEq κ]

/-! ## Maps one after the other -/

/-- The maps put together, each going before those in front of it. -/
def merge (ms : List (OrderedMap κ α)) : OrderedMap κ α := ms.foldl update ∅

theorem merge_concat (ms : List (OrderedMap κ α)) (m : OrderedMap κ α) : merge (ms ++ [m]) = (merge ms).update m :=
  List.foldl_append

/-- The last map that has a key gives its value. -/
theorem get?_merge (ms : List (OrderedMap κ α)) (k : κ) :
    (merge ms).get? k = (ms.filterMap fun m => m.get? k).getLast? := by
  induction ms using List.reverseRecOn with
  | nil => rfl
  | append_singleton ms m ih =>
      rw [merge_concat, get?_update, ih, List.filterMap_append, List.getLast?_append]
      cases h : m.get? k <;> simp [h]

variable [BEq κ] [LawfulBEq κ]

omit [DecidableEq κ] in
theorem eraseDups_of_nodup {ks : List κ} (h : ks.Nodup) : ks.eraseDups = ks := by
  induction ks with
  | nil => rfl
  | cons k ks ih =>
      obtain ⟨hnew, hks⟩ := List.nodup_cons.mp h
      have hfilter : (ks.filter fun b => !b == k) = ks :=
        List.filter_eq_self.mpr fun b hb => by
          have hne : b ≠ k := fun heq => hnew (heq ▸ hb)
          simpa using hne
      rw [List.eraseDups_cons, hfilter, ih hks]

/-- Keys stand where they first come up. -/
theorem keys_merge (ms : List (OrderedMap κ α)) : (merge ms).keys = (ms.flatMap keys).eraseDups := by
  induction ms using List.reverseRecOn with
  | nil => rfl
  | append_singleton ms m ih =>
      have hnodup : (m.keys.removeAll (ms.flatMap keys)).Nodup := m.nodup_keys.filter _
      rw [merge_concat, keys_update, List.flatMap_append, List.flatMap_singleton, List.eraseDups_append, ← ih,
        eraseDups_of_nodup hnodup]
      congr 1
      refine List.filter_congr fun k _ => Bool.eq_iff_iff.mpr ?_
      simp [ih]

/-! ## Maps that are loaded -/

omit [BEq κ] [LawfulBEq κ]

variable {β ε : Type} {load : β → Except ε (OrderedMap κ α)}

/-- If all of the maps can be loaded, they are merged. -/
theorem foldlM_update_eq_ok {bs : List β} {ms : List (OrderedMap κ α)}
    (h : List.Forall₂ (fun b m => load b = .ok m) bs ms) (merged : OrderedMap κ α) :
    bs.foldlM (fun merged b => (load b).map merged.update) merged = .ok (ms.foldl update merged) := by
  induction h generalizing merged with
  | nil => rfl
  | cons hload _ ih =>
      rw [List.foldlM_cons, hload]
      exact ih _

/-- Of the maps that cannot be loaded only the first is heard of. -/
theorem foldlM_update_eq_error_iff {bs : List β} {e : ε} (merged : OrderedMap κ α) :
    bs.foldlM (fun merged b => (load b).map merged.update) merged = .error e ↔
      ∃ before b after, bs = before ++ b :: after ∧ (∀ a ∈ before, ∃ m, load a = .ok m) ∧ load b = .error e := by
  induction bs generalizing merged with
  | nil => simp [pure, Except.pure]
  | cons b bs ih =>
      rw [List.foldlM_cons]
      constructor
      · intro h
        cases hload : load b with
        | error f =>
            rw [hload] at h
            cases h
            exact ⟨[], b, bs, rfl, by simp, hload⟩
        | ok m =>
            rw [hload] at h
            obtain ⟨before, a, after, rfl, hbefore, ha⟩ := (ih _).mp h
            exact ⟨b :: before, a, after, rfl, List.forall_mem_cons.mpr ⟨⟨m, hload⟩, hbefore⟩, ha⟩
      · rintro ⟨before, a, after, heq, hbefore, ha⟩
        cases before with
        | nil =>
            obtain ⟨rfl, rfl⟩ := List.cons.inj heq
            rw [ha]
            rfl
        | cons b' before =>
            obtain ⟨rfl, rfl⟩ := List.cons.inj heq
            obtain ⟨⟨m, hload⟩, hrest⟩ := List.forall_mem_cons.mp hbefore
            rw [hload]
            exact (ih _).mpr ⟨before, a, after, rfl, hrest, ha⟩

end OrderedMap

end Invocation
