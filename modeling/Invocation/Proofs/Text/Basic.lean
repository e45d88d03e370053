import Invocation.Text.Basic

/-!
# Lemmas on texts
-/

namespace Invocation

namespace Text

@[simp] theorem ofString_inj {a b : String} : ofString a = ofString b ↔ a = b := by
  constructor
  · intro h
    have hlists : a.toList = b.toList := (List.map_inj_right fun _ _ => CodePoint.scalar.inj).mp h
    exact String.toList_inj.mp hlists
  · rintro rfl
    rfl

theorem joinWith_cons (separator t : Text) (ts : List Text) :
    joinWith separator (t :: ts) = t ++ ts.flatMap fun u => separator ++ u := by
  induction ts generalizing t with
  | nil => simp [joinWith]
  | cons u ts ih =>
      have hrest := ih u
      simp only [joinWith] at hrest
      simp [joinWith, hrest]

/-- More texts at the end, each with a separator before it. -/
theorem joinWith_append (separator t : Text) (ts us : List Text) :
    joinWith separator (t :: ts ++ us) = joinWith separator (t :: ts) ++ us.flatMap fun u => separator ++ u := by
  rw [List.cons_append, joinWith_cons, joinWith_cons, List.flatMap_append, List.append_assoc]

theorem mem_joinWith {separator : Text} {ts : List Text} {c : CodePoint} (h : c ∈ joinWith separator ts) :
    c ∈ separator ∨ ∃ t ∈ ts, c ∈ t := by
  cases ts with
  | nil => cases h
  | cons t ts =>
      rw [joinWith_cons, List.mem_append, List.mem_flatMap] at h
      obtain h | ⟨u, hu, h⟩ := h
      · exact .inr ⟨t, List.mem_cons_self, h⟩
      · exact (List.mem_append.mp h).imp_right fun h => ⟨u, List.mem_cons_of_mem _ hu, h⟩

theorem eq_of_after? {lead t rest : Text} (h : after? lead t = some rest) : t = lead ++ rest := by
  induction lead generalizing t with
  | nil => simpa [after?] using h
  | cons a lead ih =>
      cases t with
      | nil => simp [after?] at h
      | cons b t =>
          simp only [after?] at h
          split at h
          · rename_i hab
            rw [hab, ih h, List.cons_append]
          · simp at h

theorem cutAt_append {c : CodePoint} {a : Text} (h : c ∉ a) (b : Text) : cutAt c (a ++ c :: b) = some (a, b) := by
  induction a with
  | nil => simp [cutAt]
  | cons d a ih =>
      obtain ⟨hne, ha⟩ := not_or.mp (mt List.mem_cons.mpr h)
      rw [List.cons_append, cutAt, if_neg (Ne.symm hne), ih ha]
      rfl

theorem cutAt_eq_none_iff {c : CodePoint} {t : Text} : cutAt c t = none ↔ c ∉ t := by
  induction t with
  | nil => simp [cutAt]
  | cons d t ih =>
      rw [cutAt]
      split
      · rename_i hd
        simp [hd]
      · rename_i hd
        rw [Option.map_eq_none_iff, ih, List.mem_cons, not_or]
        exact ⟨fun ht => ⟨Ne.symm hd, ht⟩, And.right⟩

/-- A text is cut at the first of its code points `c`. -/
theorem cutAt_eq_some_iff {c : CodePoint} {t a b : Text} : cutAt c t = some (a, b) ↔ c ∉ a ∧ t = a ++ c :: b := by
  constructor
  · intro h
    induction t generalizing a with
    | nil => simp [cutAt] at h
    | cons d t ih =>
        rw [cutAt] at h
        split at h
        · rename_i hd
          cases h
          simp [hd]
        · rename_i hd
          obtain ⟨⟨a', b'⟩, hcut, heq⟩ := Option.map_eq_some_iff.mp h
          cases heq
          obtain ⟨ha, rfl⟩ := ih hcut
          exact ⟨mt List.mem_cons.mp (not_or.mpr ⟨Ne.symm hd, ha⟩), rfl⟩
  · rintro ⟨ha, rfl⟩
    exact cutAt_append ha b

end Text

end Invocation
