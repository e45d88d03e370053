import Mathlib.Data.List.Basic
import Mathlib.Data.List.Induction
import Invocation.OrderedMap

/-!
# Lemmas on ordered maps

What a key has after another has been set, the order of a map that is made of distinct keys, and what comes of a map
that is updated by another or of which some keys are kept.
-/

namespace Invocation

namespace OrderedMap

variable {κ α : Type} [DecidableEq κ]

theorem find?_setIn (k k' : κ) (v : α) (es : List (κ × α)) :
    ((setIn k v es).find? fun e => decide (e.1 = k')).map Prod.snd =
      if k' = k then some v else (es.find? fun e => decide (e.1 = k')).map Prod.snd := by
  induction es with
  | nil => by_cases h : k' = k <;> simp [setIn, h, eq_comm]
  | cons e es ih =>
      by_cases he : e.1 = k
      · by_cases h : k' = k
        · simp [setIn, he, h]
        · have hk : ¬k = k' := fun x => h x.symm
          simp [setIn, he, h, hk]
      · by_cases hek : e.1 = k'
        · have h : ¬k' = k := hek ▸ he
          simp [setIn, hek, h]
        · simp [setIn, he, hek, ih]

theorem get?_insert (m : OrderedMap κ α) (k k' : κ) (v : α) :
    (m.insert k v).get? k' = if k' = k then some v else m.get? k' :=
  find?_setIn k k' v m.toList

/-- A key that is set again keeps its place. -/
theorem keys_insert (m : OrderedMap κ α) (k : κ) (v : α) :
    (m.insert k v).keys = if k ∈ m.keys then m.keys else m.keys ++ [k] :=
  keys_setIn k v m.toList

theorem get?_eq_none_iff {m : OrderedMap κ α} {k : κ} : m.get? k = none ↔ k ∉ m.keys := by
  rw [get?, Option.map_eq_none_iff, List.find?_eq_none, keys, List.mem_map]
  constructor
  · rintro h ⟨e, he, rfl⟩
    exact h e he (decide_eq_true rfl)
  · exact fun h e he hk => h ⟨e, he, of_decide_eq_true hk⟩

theorem find?_eq_some_iff {es : List (κ × α)} (h : (es.map Prod.fst).Nodup) {k : κ} {v : α} :
    (es.find? fun e => decide (e.1 = k)).map Prod.snd = some v ↔ (k, v) ∈ es := by
  induction es with
  | nil => simp
  | cons e es ih =>
      obtain ⟨hnew, hes⟩ := List.nodup_cons.mp h
      by_cases he : e.1 = k
      · have hmem : (k, v) ∉ es := fun hmem => hnew (he ▸ List.mem_map_of_mem hmem)
        simp [he, hmem, Prod.ext_iff, eq_comm]
      · have hne : (k, v) ≠ e := fun heq => he (heq ▸ rfl)
        simpa [he, hne] using ih hes

/-- A key has the one value that stands beside it. -/
theorem get?_eq_some_iff {m : OrderedMap κ α} {k : κ} {v : α} : m.get? k = some v ↔ (k, v) ∈ m.toList :=
  find?_eq_some_iff m.nodup_keys

/-- The entries of a map can be looked up one by one. -/
theorem toList_eq_filterMap_keys (m : OrderedMap κ α) :
    m.toList = m.keys.filterMap fun k => (m.get? k).map fun v => (k, v) := by
  have hentry : ∀ e ∈ m.toList, (m.get? e.1).map (fun v => (e.1, v)) = some (id e) := fun e he => by
    rw [get?_eq_some_iff.mpr he]
    rfl
  rw [keys, List.filterMap_map]
  exact ((List.filterMap_eq_map_iff_forall_eq_some.mpr hentry).trans (List.map_id _)).symm

/-- Maps are equal if they have the same keys in the same order, and the same values for them. -/
theorem ext_keys {m n : OrderedMap κ α} (hkeys : m.keys = n.keys) (hvalues : ∀ k, m.get? k = n.get? k) : m = n := by
  ext1
  rw [toList_eq_filterMap_keys m, toList_eq_filterMap_keys n, hkeys]
  simp only [hvalues]

theorem setIn_of_not_mem {k : κ} {es : List (κ × α)} (h : k ∉ es.map Prod.fst) (v : α) :
    setIn k v es = es ++ [(k, v)] := by
  induction es with
  | nil => rfl
  | cons e es ih =>
      obtain ⟨hne, hes⟩ := not_or.mp (mt List.mem_cons.mpr h)
      rw [setIn, if_neg (Ne.symm hne), ih hes, List.cons_append]

theorem toList_foldl_insert (m : OrderedMap κ α) {es : List (κ × α)} (h : ((m.toList ++ es).map Prod.fst).Nodup) :
    (es.foldl (fun m e => m.insert e.1 e.2) m).toList = m.toList ++ es := by
  induction es generalizing m with
  | nil => exact (List.append_nil _).symm
  | cons e es ih =>
      rw [List.append_cons] at h ⊢
      have hnew : e.1 ∉ m.toList.map Prod.fst := by
        simp only [List.map_append, List.nodup_append] at h
        exact fun hmem => h.1.2.2 e.1 hmem e.1 (by simp) rfl
      have hinsert : (m.insert e.1 e.2).toList = m.toList ++ [e] := setIn_of_not_mem hnew e.2
      rw [List.foldl_cons, ih (m.insert e.1 e.2) (hinsert ▸ h), hinsert]

/-- Entries with different keys stay in the order in which they are set. -/
theorem toList_ofList {es : List (κ × α)} (h : (es.map Prod.fst).Nodup) : (ofList es).toList = es :=
  toList_foldl_insert empty h

theorem ofList_toList (m : OrderedMap κ α) : ofList m.toList = m := ext (toList_ofList m.nodup_keys)

/-! ## Updates -/

theorem ofList_concat (es : List (κ × α)) (e : κ × α) : ofList (es ++ [e]) = (ofList es).insert e.1 e.2 :=
  List.foldl_append

theorem get?_foldl_insert (m : OrderedMap κ α) (es : List (κ × α)) (k : κ) :
    (es.foldl (fun m e => m.insert e.1 e.2) m).get? k = ((ofList es).get? k).or (m.get? k) := by
  induction es using List.reverseRecOn with
  | nil => rfl
  | append_singleton es e ih =>
      rw [List.foldl_append, List.foldl_cons, List.foldl_nil, ofList_concat, get?_insert, get?_insert, ih]
      split <;> rfl

theorem keys_foldl_insert (m : OrderedMap κ α) (es : List (κ × α)) :
    (es.foldl (fun m e => m.insert e.1 e.2) m).keys = m.keys ++ (ofList es).keys.filter (· ∉ m.keys) := by
  induction es using List.reverseRecOn with
  | nil => exact (List.append_nil _).symm
  | append_singleton es e ih =>
      rw [List.foldl_append, List.foldl_cons, List.foldl_nil, ofList_concat, keys_insert, keys_insert, ih]
      by_cases hm : e.1 ∈ m.keys
      · by_cases hes : e.1 ∈ (ofList es).keys <;> simp [hm, hes]
      · by_cases hes : e.1 ∈ (ofList es).keys <;> simp [hm, hes]

/-- What a map is updated by goes before what it had. -/
theorem get?_update (m n : OrderedMap κ α) (k : κ) : (m.update n).get? k = (n.get? k).or (m.get? k) := by
  rw [update, get?_foldl_insert, ofList_toList]

/-- Keys that were there keep their places, and new ones follow in their order. -/
theorem keys_update (m n : OrderedMap κ α) : (m.update n).keys = m.keys ++ n.keys.filter (· ∉ m.keys) := by
  rw [update, keys_foldl_insert, ofList_toList]

/-- To set entries one after the other is to update by the map of them. -/
theorem ofList_append (es fs : List (κ × α)) : ofList (es ++ fs) = (ofList es).update (ofList fs) := by
  have happend : ofList (es ++ fs) = fs.foldl (fun m e => m.insert e.1 e.2) (ofList es) := List.foldl_append
  rw [happend]
  refine ext_keys ?_ fun k => ?_
  · rw [keys_foldl_insert, keys_update]
  · rw [get?_foldl_insert, get?_update]

/-! ## Parts -/

omit [DecidableEq κ] in
theorem keys_filter (m : OrderedMap κ α) (p : κ → Bool) : (m.filter p).keys = m.keys.filter p :=
  List.filter_map.symm

theorem get?_filter (m : OrderedMap κ α) (p : κ → Bool) (k : κ) :
    (m.filter p).get? k = if p k then m.get? k else none := by
  ext v
  have hmem : (k, v) ∈ (m.filter p).toList ↔ (k, v) ∈ m.toList ∧ p k := List.mem_filter
  cases hk : p k <;> simp [get?_eq_some_iff, hmem, hk]

section FilterMap

variable {β : Type} (m : OrderedMap κ α) (f : κ → α → Option β)

theorem toList_filterMap :
    (m.filterMap f).toList = m.toList.filterMap fun e => (f e.1 e.2).map fun v => (e.1, v) := by
  refine toList_ofList (m.nodup_keys.sublist ?_)
  induction m.toList with
  | nil => exact .slnil
  | cons e es ih =>
      cases h : f e.1 e.2 with
      | none => simpa [List.filterMap_cons, h] using ih.cons e.1
      | some v => simpa [List.filterMap_cons, h] using ih

/-- A value is kept if `f` gives it another. -/
theorem get?_filterMap (k : κ) : (m.filterMap f).get? k = (m.get? k).bind (f k) := by
  ext v
  rw [get?_eq_some_iff, toList_filterMap, List.mem_filterMap]
  simp only [Option.bind_eq_some_iff, get?_eq_some_iff, Option.map_eq_some_iff, Prod.mk.injEq]
  constructor
  · rintro ⟨⟨k', w⟩, hmem, u, hu, rfl, rfl⟩
    exact ⟨w, hmem, hu⟩
  · rintro ⟨w, hmem, hw⟩
    exact ⟨(k, w), hmem, v, hw, rfl, rfl⟩

theorem keys_filterMap : (m.filterMap f).keys = m.keys.filter fun k => ((m.get? k).bind (f k)).isSome := by
  have hkept : ∀ e ∈ m.toList, ((m.get? e.1).bind (f e.1)).isSome = (f e.1 e.2).isSome := fun e he => by
    rw [get?_eq_some_iff.mpr he, Option.bind_some]
  rw [keys, keys, toList_filterMap, List.filter_map, Function.comp_def, List.filter_congr hkept]
  induction m.toList with
  | nil => rfl
  | cons e es ih => cases h : f e.1 e.2 <;> simp [h, ih]

end FilterMap

/-- It does not matter whether keys are picked before an update or afterwards. -/
theorem filter_update (m n : OrderedMap κ α) (p : κ → Bool) :
    (m.update n).filter p = (m.filter p).update (n.filter p) := by
  refine ext_keys ?_ fun k => ?_
  · rw [keys_filter, keys_update, keys_update, keys_filter, keys_filter, List.filter_append, List.filter_filter,
      List.filter_filter]
    congr 1
    refine List.filter_congr fun k _ => ?_
    cases hk : p k <;> simp [hk]
  · rw [get?_filter, get?_update, get?_update, get?_filter, get?_filter]
    cases p k <;> simp

end OrderedMap

end Invocation
