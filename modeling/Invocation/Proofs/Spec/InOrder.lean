import Mathlib.Data.Finset.Card
import Invocation.Spec.Problems

/-!
# Lists in order

A list that has what is found at the places of something, one place after the other. What comes up again in a list is
reported in this order, and as often as it comes up again.
-/

namespace Invocation

/-- The list goes through the places from `place` on: it has the one thing that is found at a place, one behind the
other, and leaves out nothing. -/
inductive InOrder {α : Type} (found : Nat → α → Prop) : Nat → List α → Prop where
  | done {place : Nat} (h : ∀ i a, place ≤ i → ¬found i a) : InOrder found place []
  | next {place i : Nat} {a : α} {as : List α} (hi : place ≤ i) (hbetween : ∀ j b, place ≤ j → j < i → ¬found j b)
      (h : ∀ b, found i b ↔ b = a) (has : InOrder found (i + 1) as) : InOrder found place (a :: as)

namespace InOrder

variable {α β : Type} {found : Nat → α → Prop} {place : Nat} {as : List α}

theorem cons {a : α} (has : InOrder found (place + 1) as) (h : ∀ b, found place b ↔ b = a) :
    InOrder found place (a :: as) :=
  .next le_rfl (fun _ _ hj hlt => absurd hj (Nat.not_le.mpr hlt)) h has

theorem skip (hnone : ∀ a, ¬found place a) (h : InOrder found (place + 1) as) : InOrder found place as := by
  have hstart (j : Nat) (b : α) (hj : place ≤ j) (hrest : place + 1 ≤ j → ¬found j b) : ¬found j b := by
    rcases Nat.eq_or_lt_of_le hj with rfl | hlt
    · exact hnone b
    · exact hrest hlt
  cases h with
  | done h => exact .done fun i a hi => hstart i a hi (h i a)
  | next hi hbetween h has =>
      exact .next (by omega) (fun j b hj hlt => hstart j b hj fun hj' => hbetween j b hj' hlt) h has

/-- Where at most one thing is found for each member of a list. -/
theorem flatMap {l : List β} {f : β × Nat → List α} (hone : ∀ x, (f x).length ≤ 1)
    (hfound : ∀ i a, found (place + i) a ↔ ∃ b, l[i]? = some b ∧ a ∈ f (b, place + i)) :
    InOrder found place ((l.zipIdx place).flatMap f) := by
  induction l generalizing place with
  | nil =>
      refine .done fun i a hi h => ?_
      obtain ⟨j, rfl⟩ := Nat.exists_eq_add_of_le hi
      simpa using (hfound j a).mp h
  | cons b l ih =>
      have hrest : InOrder found (place + 1) ((l.zipIdx (place + 1)).flatMap f) := by
        refine ih fun i a => ?_
        rw [Nat.add_assoc, Nat.add_comm 1 i, hfound (i + 1) a, List.getElem?_cons_succ]
      have hhere (a : α) : found place a ↔ a ∈ f (b, place) := by simpa using hfound 0 a
      rw [List.zipIdx_cons, List.flatMap_cons]
      match hf : f (b, place), hone (b, place) with
      | [], _ => exact hrest.skip fun a => by simp [hhere, hf]
      | [a], _ => exact hrest.cons fun c => by simp [hhere, hf]

theorem map (g : α → β) (h : InOrder found place as) :
    InOrder (fun i b => ∃ a, found i a ∧ g a = b) place (as.map g) := by
  induction h with
  | done h => exact .done fun i b hi ⟨a, ha, _⟩ => h i a hi ha
  | next hi hbetween h _ ih =>
      refine .next hi (fun j b hj hlt ⟨a, ha, _⟩ => hbetween j a hj hlt ha) (fun b => ?_) ih
      simp [h, eq_comm]

theorem mem_iff {a : α} (h : InOrder found place as) : a ∈ as ↔ ∃ i, place ≤ i ∧ found i a := by
  induction h with
  | done h => simpa using fun i hi => h i a hi
  | @next place i b bs hi hbetween h _ ih =>
      rw [List.mem_cons, ih]
      constructor
      · rintro (rfl | ⟨j, hj, ha⟩)
        · exact ⟨i, hi, (h a).mpr rfl⟩
        · exact ⟨j, by omega, ha⟩
      · rintro ⟨j, hj, ha⟩
        rcases Nat.lt_trichotomy j i with hlt | rfl | hlt
        · exact absurd ha (hbetween j a hj hlt)
        · exact .inl ((h a).mp ha)
        · exact .inr ⟨j, hlt, ha⟩

theorem congr {found' : Nat → α → Prop} (h : InOrder found place as) (heq : ∀ i a, found' i a ↔ found i a) :
    InOrder found' place as := by
  obtain rfl : found' = found := by
    funext i a
    exact propext (heq i a)
  exact h

end InOrder

/-! ## What comes up again -/

section Duplicates

variable {α β : Type} [DecidableEq β] {seen : List β}

/-- Each member is reported, or it is the first of its kind. -/
theorem length_duplicates (seen l : List β) :
    (duplicates seen l).length + (l.toFinset \ seen.toFinset).card = l.length := by
  induction l generalizing seen with
  | nil => simp [duplicates]
  | cons b l ih =>
      by_cases hb : b ∈ seen
      · have hsame : (b :: l).toFinset \ seen.toFinset = l.toFinset \ seen.toFinset := by
          rw [List.toFinset_cons, Finset.insert_sdiff_of_mem _ (List.mem_toFinset.mpr hb)]
        rw [duplicates, if_pos hb, hsame, List.length_cons, List.length_cons, ← ih seen]
        omega
      · have hmore : (b :: l).toFinset \ seen.toFinset = insert b (l.toFinset \ (b :: seen).toFinset) := by
          ext c
          by_cases hc : c = b <;> simp [hc, hb]
        have hnew : b ∉ l.toFinset \ (b :: seen).toFinset := by simp
        rw [duplicates, if_neg hb, hmore, Finset.card_insert_of_notMem hnew, List.length_cons, ← ih (b :: seen)]
        omega

/-- What has no name is left out, but it has a place. -/
theorem inOrder_duplicates {name? : α → Option β} {l : List α} {found : Nat → β → Prop} {place : Nat}
    (hfound : ∀ i b, found (place + i) b ↔
      l[i]?.bind name? = some b ∧ (b ∈ seen ∨ ∃ j < i, l[j]?.bind name? = some b)) :
    InOrder found place (duplicates seen (l.filterMap name?)) := by
  induction l generalizing seen place with
  | nil =>
      refine .done fun i b hi h => ?_
      obtain ⟨j, rfl⟩ := Nat.exists_eq_add_of_le hi
      simpa using ((hfound j b).mp h).1
  | cons a l ih =>
      have hhere (b : β) : found place b ↔ name? a = some b ∧ b ∈ seen := by simpa using hfound 0 b
      -- Behind its first member the list goes on with the name of that member among those that have been seen.
      have hrest (seen' : List β) (h : ∀ b, b ∈ seen' ↔ b ∈ seen ∨ name? a = some b) :
          InOrder found (place + 1) (duplicates seen' (l.filterMap name?)) := by
        refine ih fun i b => ?_
        rw [Nat.add_assoc, Nat.add_comm 1 i, hfound (i + 1) b, List.getElem?_cons_succ, h, or_assoc]
        have hbefore : (∃ j < i + 1, (a :: l)[j]?.bind name? = some b) ↔
            name? a = some b ∨ ∃ j < i, l[j]?.bind name? = some b := by
          rw [Nat.exists_lt_succ_left]
          rfl
        rw [hbefore]
      cases ha : name? a with
      | none =>
          rw [List.filterMap_cons_none ha]
          exact (hrest seen (by simp [ha])).skip (by simp [hhere, ha])
      | some b =>
          rw [List.filterMap_cons_some ha, duplicates]
          by_cases hb : b ∈ seen
          · rw [if_pos hb]
            refine (hrest seen fun c => ?_).cons fun c => ?_
            · rw [ha, iff_self_or]
              exact fun heq => Option.some.inj heq ▸ hb
            · rw [hhere, ha]
              constructor
              · rintro ⟨heq, -⟩
                exact (Option.some.inj heq).symm
              · rintro rfl
                exact ⟨rfl, hb⟩
          · rw [if_neg hb]
            refine (hrest (b :: seen) fun c => ?_).skip fun c hc => ?_
            · rw [List.mem_cons, or_comm, ha, Option.some.injEq, eq_comm]
            · obtain ⟨heq, hseen⟩ := (hhere c).mp hc
              rw [ha] at heq
              exact hb (Option.some.inj heq ▸ hseen)

end Duplicates

end Invocation
