import Mathlib.Data.List.TakeWhile
import Invocation.Proofs.Properties.Flaws

/-!
# Backslashes of logical lines

Backslashes are looked at three times: they are counted at the end of a natural line, they are passed together with what
they protect until the key ends, and they are taken away from key and value. All three agree on which of them protect.
None is left at the end of a complete line, so none is left at the end of a key or a value either.
-/

namespace Invocation

namespace Properties

variable {t u : Text} {p : Nat}

/-! ## The end of a line -/

theorem continues_of_not_mem (h : .scalar '\\' ∉ t) : continues t = false := by
  induction t with
  | nil => rfl
  | cons c t ih =>
      rw [List.mem_cons, not_or] at h
      rw [continues_cons_of_ne (Ne.symm h.1), ih h.2]

/-- A line that is continued protects its mark of continuation from nothing. -/
theorem continues_dropLast (h : continues t = true) : continues t.dropLast = false := by
  cases t using List.reverseRecOn with
  | nil => rfl
  | append_singleton t c =>
      rw [continues_concat, Bool.and_eq_true, Bool.not_eq_true'] at h
      rw [List.dropLast_concat, h.2]

theorem continues_joined {continued : List Text} (h : ∀ line ∈ continued, continues line = true) :
    continues (joined continued) = false := by
  induction continued with
  | nil => rfl
  | cons line continued ih =>
      obtain ⟨hline, hcontinued⟩ := List.forall_mem_cons.mp h
      rw [← continues_withoutIndent] at hline
      rw [joined, List.flatMap_cons, continues_append (continues_dropLast hline)]
      exact ih hcontinued

/-- A complete line leaves nothing to be continued, since each of the lines before its last keeps its backslashes but
one. -/
theorem Joins.continues_text {number : Nat} {lines : List Text} {ls : List LogicalLine} (h : Joins number lines ls) :
    ∀ l ∈ ls, l.complete = true → continues l.text = false := by
  induction h with
  | nil => simp
  | skipped _ _ ih => exact ih
  | complete _ hcontinued hlast _ ih =>
      refine List.forall_mem_cons.mpr ⟨fun _ => ?_, ih⟩
      rw [continues_append (continues_joined hcontinued), continues_withoutIndent, hlast]
  | unterminated _ _ _ => simp

theorem continues_text {l : LogicalLine} (hl : l ∈ logicalLines t) (hcomplete : l.complete = true) :
    continues l.text = false :=
  (joins_linesFrom 1 (naturalLines t)).continues_text l hl hcomplete

/-! ## The end of the key -/

/-- The character ends a key if nothing protects it. -/
def EndsKey (c : CodePoint) : Prop := (isSeparator c || isBlank c) = true

/-- The positions to which the search for the end of the key comes. A backslash is passed in one step with whatever
stands behind it. -/
inductive Passes (t : Text) : Nat → Prop where
  | start : Passes t 0
  | escape {p : Nat} (h : Passes t p) (hc : t[p]? = some (.scalar '\\')) : Passes t (p + 2)
  | character {p : Nat} {c : CodePoint} (h : Passes t p) (hc : t[p]? = some c) (hne : c ≠ .scalar '\\')
      (hstays : ¬EndsKey c) : Passes t (p + 1)

/-- The position is one where the search for the end of the key is over. -/
def StopsAt (t : Text) (p : Nat) : Prop := Passes t p ∧ ∀ c, t[p]? = some c → EndsKey c

/-- The position is one between a backslash and the character that it protects. -/
def CutsEscape (t : Text) (p : Nat) : Prop :=
  ∃ before c after, t = before ++ .scalar '\\' :: c :: after ∧ continues before = false ∧ p = before.length + 1

namespace Passes

theorem cons {c : CodePoint} (hne : c ≠ .scalar '\\') (hstays : ¬EndsKey c) (h : Passes t p) :
    Passes (c :: t) (p + 1) := by
  induction h with
  | start => exact .character .start rfl hne hstays
  | escape _ hc ih => exact .escape ih (by rwa [List.getElem?_cons_succ])
  | character _ hc hne hstays ih => exact .character ih (by rwa [List.getElem?_cons_succ]) hne hstays

theorem cons_escape (c : CodePoint) (h : Passes t p) : Passes (.scalar '\\' :: c :: t) (p + 2) := by
  induction h with
  | start => exact .escape .start rfl
  | escape _ hc ih => exact .escape ih (by rwa [List.getElem?_cons_succ, List.getElem?_cons_succ])
  | character _ hc hne hstays ih =>
      exact .character ih (by rwa [List.getElem?_cons_succ, List.getElem?_cons_succ]) hne hstays

/-- In a text that leaves nothing to be continued, no position is behind its end, and what was passed leaves nothing to
be continued either. -/
theorem within (ht : continues t = false) (h : Passes t p) : p ≤ t.length ∧ continues (t.take p) = false := by
  induction h with
  | start => exact ⟨Nat.zero_le _, rfl⟩
  | @escape p _ hc ih =>
      have hpassed : t.take (p + 1) = t.take p ++ [.scalar '\\'] := by rw [List.take_add_one, hc]; rfl
      have hmore : p + 1 < t.length := by
        by_contra hend
        -- the backslash would be the last character, and pending
        rw [← List.take_of_length_le (Nat.not_lt.mp hend), hpassed, continues_concat, ih.2] at ht
        cases ht
      refine ⟨hmore, ?_⟩
      rw [List.take_succ_eq_append_getElem hmore, hpassed, continues_concat, continues_concat, ih.2]
      exact Bool.and_false _
  | @character p c _ hc hne _ ih =>
      refine ⟨(List.getElem?_eq_some_iff.mp hc).1, ?_⟩
      rw [List.take_add_one, hc, Option.toList_some, continues_concat, decide_eq_false hne, Bool.false_and]

theorem not_cutsEscape (ht : continues t = false) (h : Passes t p) : ¬CutsEscape t p := by
  rintro ⟨before, c, after, rfl, hbefore, rfl⟩
  have hpassed := (h.within ht).2
  rw [List.append_cons, List.take_left' (by simp), continues_concat, hbefore] at hpassed
  cases hpassed

end Passes

theorem passes_splitKey (h : continues t = false) : Passes t (splitKey t).1.length := by
  fun_induction splitKey t with
  | case1 => exact .start
  | case2 c r key rest hr ih =>
      rw [continues_escape] at h
      rw [hr] at ih
      exact (ih h).cons_escape c
  | case3 => exact .start
  | case4 c r hpair hstays key rest hr ih =>
      have hne : c ≠ .scalar '\\' := by
        rintro rfl
        cases r with
        | nil => cases h
        | cons d r => exact hpair d r rfl rfl
      rw [continues_cons_of_ne hne] at h
      rw [hr] at ih
      exact (ih h).cons hne hstays

/-- Whatever is left behind the key begins with what ends it. -/
theorem endsKey_splitKey (t : Text) : ∀ c ∈ (splitKey t).2.head?, EndsKey c := by
  fun_induction splitKey t with
  | case1 => simp
  | case2 c r key rest hr ih => rwa [hr] at ih
  | case3 c r _ hends =>
      rintro d ⟨⟩
      exact hends
  | case4 c r _ _ key rest hr ih => rwa [hr] at ih

theorem stopsAt_splitKey (h : continues t = false) : StopsAt t (splitKey t).1.length := by
  refine ⟨passes_splitKey h, fun c hc => endsKey_splitKey t c ?_⟩
  calc (splitKey t).2.head?
      = ((splitKey t).1 ++ (splitKey t).2)[(splitKey t).1.length]? := by
        rw [List.getElem?_append_right (Nat.le_refl _), Nat.sub_self, List.head?_eq_getElem?]
    _ = some c := by rw [splitKey_eq, hc]

/-! ## Between key and value -/

theorem not_mem_takeWhile_isBlank (t : Text) : .scalar '\\' ∉ t.takeWhile isBlank := fun h =>
  ne_backslash_of_isBlank (List.mem_takeWhile_imp h) rfl

/-- No backslash is passed over between key and value. -/
theorem exists_gap (t : Text) : ∃ gap, t = gap ++ afterSeparator t ∧ .scalar '\\' ∉ gap := by
  have hblanks := not_mem_takeWhile_isBlank t
  have hsplit : t = t.takeWhile isBlank ++ t.dropWhile isBlank := List.takeWhile_append_dropWhile.symm
  rw [afterSeparator]
  cases hrest : t.dropWhile isBlank with
  | nil => exact ⟨t.takeWhile isBlank, by rwa [hrest] at hsplit, hblanks⟩
  | cons c r =>
      rw [hrest] at hsplit
      cases hc : isSeparator c with
      | false => exact ⟨t.takeWhile isBlank, by simpa [hc] using hsplit, hblanks⟩
      | true =>
          refine ⟨t.takeWhile isBlank ++ c :: r.takeWhile isBlank, by simpa [hc] using hsplit, ?_⟩
          simp [hblanks, (ne_backslash_of_isSeparator hc).symm, not_mem_takeWhile_isBlank r]

/-! ## Escapes of keys and values -/

/-- What is still to be read of a key or a value when its escapes are read from left to right. -/
inductive Unread (raw : Text) : Text → Prop where
  | all : Unread raw raw
  | character {c : CodePoint} {r : Text} (h : Unread raw (c :: r)) (hne : c ≠ .scalar '\\') : Unread raw r
  | unit {a b c d : CodePoint} {r : Text} (h : Unread raw (.scalar '\\' :: .scalar 'u' :: a :: b :: c :: d :: r))
      (hunit : (unit? [a, b, c, d]).isSome = true) : Unread raw r
  | escape {c : CodePoint} {r : Text} (h : Unread raw (.scalar '\\' :: c :: r)) (hne : c ≠ .scalar 'u') : Unread raw r

/-- The text without escapes as `unescape` gives it, but `dangling` is the answer if a backslash is the last that is
left. -/
def unescapeOr (dangling : Option (Text × Bool)) : Text → Option (Text × Bool)
  | [] => some ([], false)
  | .scalar '\\' :: .scalar 'u' :: a :: b :: c :: d :: r =>
    match unit? [a, b, c, d], unescapeOr dangling r with
    | some unit, some (t, surrogates) => some (unit :: t, unit.isSurrogate || surrogates)
    | _, _ => none
  | .scalar '\\' :: .scalar 'u' :: _ => none
  | .scalar '\\' :: c :: r => (unescapeOr dangling r).map fun (t, surrogates) => (escaped c :: t, surrogates)
  | [.scalar '\\'] => dangling
  | c :: r => (unescapeOr dangling r).map fun (t, surrogates) => (c :: t, surrogates)

theorem continues_unit {a b c d : CodePoint} (h : (unit? [a, b, c, d]).isSome = true) (r : Text) :
    continues (.scalar '\\' :: .scalar 'u' :: a :: b :: c :: d :: r) = continues r := by
  obtain ⟨ha, hb, hc, hd⟩ := beginsWithUnit_cons.mp ((isSome_unit? a b c d r).mp h)
  rw [continues_escape, continues_cons_of_ne (ne_backslash_of_isHexDigit ha),
    continues_cons_of_ne (ne_backslash_of_isHexDigit hb), continues_cons_of_ne (ne_backslash_of_isHexDigit hc),
    continues_cons_of_ne (ne_backslash_of_isHexDigit hd)]

theorem Unread.continues_eq {raw r : Text} (h : Unread raw r) : continues r = continues raw := by
  induction h with
  | all => rfl
  | character _ hne ih => rw [← ih, continues_cons_of_ne hne]
  | unit _ hunit ih => rw [← ih, continues_unit hunit]
  | escape _ _ ih => rw [← ih, continues_escape]

/-- A backslash that is read has something to protect. -/
theorem Unread.ne_nil {raw rest : Text} (hraw : continues raw = false) (h : Unread raw (.scalar '\\' :: rest)) :
    rest ≠ [] := by
  rintro rfl
  rw [← h.continues_eq] at hraw
  cases hraw

theorem unescapeOr_bare (dangling : Option (Text × Bool)) {c : CodePoint} (h : c ≠ .scalar '\\') (t : Text) :
    unescapeOr dangling (c :: t) = (unescapeOr dangling t).map fun r => (c :: r.1, r.2) := by
  rw [unescapeOr.eq_def]
  grind

theorem unescapeOr_escape (dangling : Option (Text × Bool)) {c : CodePoint} (h : c ≠ .scalar 'u') (t : Text) :
    unescapeOr dangling (.scalar '\\' :: c :: t) =
      (unescapeOr dangling t).map fun r => (escaped c :: r.1, r.2) := by
  rw [unescapeOr.eq_def]
  grind

/-- The answer for a backslash without a character behind it only counts for texts that leave one pending. -/
theorem unescapeOr_eq {dangling : Option (Text × Bool)} (h : continues t = true → dangling = some ([], false)) :
    unescapeOr dangling t = unescape t := by
  fun_induction unescape t with
  | case1 => rfl
  | case2 a b c d r unit t surrogates hr hunit ih =>
      rw [continues_unit (by rw [hunit]; rfl)] at h
      rw [unescapeOr, ih h, hunit, hr]
  | case3 a b c d r hnone ih =>
      rw [unescapeOr]
      cases hunit : unit? [a, b, c, d] with
      | none => rfl
      | some unit =>
          have hrest : unescape r = none :=
            Option.eq_none_iff_forall_ne_some.mpr fun x hx => hnone unit x.1 x.2 hunit hx
          rw [continues_unit (by rw [hunit]; rfl)] at h
          rw [ih h, hrest]
  | case4 r hfew => rw [unescapeOr]; exact hfew
  | case5 c r _ hc ih =>
      rw [continues_escape] at h
      rw [unescapeOr_escape dangling hc, ih h]
  | case6 => exact h rfl
  | case7 c r _ _ hpair hlast ih =>
      have hne : c ≠ .scalar '\\' := by
        rintro rfl
        cases r with
        | nil => exact hlast rfl rfl
        | cons d r => exact hpair d r rfl rfl
      rw [continues_cons_of_ne hne] at h
      rw [unescapeOr_bare dangling hne, ih h]

-- the answer counts for what a line that breaks off leaves
example : unescapeOr none "d\\" = none := rfl

/-- A complete line leaves no backslash pending. The search for the end of its key stays within the line and never
comes between a backslash and the character behind it, the part that is passed over between key and value has no
backslash, and whoever reads the escapes of key and value finds a character behind each backslash that begins one. What
would be done with a backslash that has none behind it does not matter. -/
theorem backslashes_agree {l : LogicalLine} (hl : l ∈ logicalLines t) (hcomplete : l.complete = true) :
    continues l.text = false ∧
    (∀ p, Passes l.text p → p ≤ l.text.length ∧ ¬CutsEscape l.text p) ∧
    ∃ key gap value, l.text = key ++ gap ++ value ∧ splitKey l.text = (key, gap ++ value) ∧
      afterSeparator (gap ++ value) = value ∧ StopsAt l.text key.length ∧ ¬CutsEscape l.text key.length ∧
      .scalar '\\' ∉ gap ∧
      ∀ raw ∈ [key, value],
        (∀ rest, Unread raw (.scalar '\\' :: rest) → rest ≠ []) ∧ ∀ dangling, unescapeOr dangling raw = unescape raw := by
  have hline : continues l.text = false := continues_text hl hcomplete
  have hpasses (p : Nat) (h : Passes l.text p) : p ≤ l.text.length ∧ ¬CutsEscape l.text p :=
    ⟨(h.within hline).1, h.not_cutsEscape hline⟩
  have hstops : StopsAt l.text (splitKey l.text).1.length := stopsAt_splitKey hline
  obtain ⟨gap, hrest, hgap⟩ := exists_gap (splitKey l.text).2
  have htext : (splitKey l.text).1 ++ (splitKey l.text).2 = l.text := splitKey_eq l.text
  have hkey : continues (splitKey l.text).1 = false := by
    have hpassed := (hstops.1.within hline).2
    rwa [← htext, List.take_left' (by rw [htext])] at hpassed
  have hvalue : continues (afterSeparator (splitKey l.text).2) = false := by
    rwa [← htext, continues_append hkey, hrest, continues_append (continues_of_not_mem hgap)] at hline
  have hread (raw : Text) (hraw : continues raw = false) :
      (∀ rest, Unread raw (.scalar '\\' :: rest) → rest ≠ []) ∧ ∀ dangling, unescapeOr dangling raw = unescape raw :=
    ⟨fun rest h => h.ne_nil hraw, fun dangling => unescapeOr_eq (by rw [hraw]; rintro ⟨⟩)⟩
  refine ⟨hline, hpasses, _, gap, afterSeparator (splitKey l.text).2, ?_, ?_, ?_, hstops,
    (hpasses _ hstops.1).2, hgap, ?_⟩
  · rw [List.append_assoc, ← hrest, htext]
  · rw [← hrest]
  · rw [← hrest]
  · simp only [List.forall_mem_cons, List.not_mem_nil, false_implies, implies_true, and_true]
    exact ⟨hread _ hkey, hread _ hvalue⟩

/-- An escaped separator and the mark of continuation in the key, and three backslashes in the value. -/
theorem backslashes_agree_threeBackslashes :
    ⟨1, "a\\=bc = d\\\\\\u0041", true⟩ ∈ logicalLines "a\\=b\\\n  c = d\\\\\\u0041" ∧
    ∀ dangling, unescapeOr dangling "a\\=bc" = some (.ofString "a=bc", false) ∧
      unescapeOr dangling "d\\\\\\u0041" = some (.ofString "d\\A", false) := by
  have hl : ⟨1, "a\\=bc = d\\\\\\u0041", true⟩ ∈ logicalLines "a\\=b\\\n  c = d\\\\\\u0041" := by decide
  obtain ⟨-, -, key, gap, value, -, hsplit, hvalue, -, -, -, hread⟩ := backslashes_agree hl rfl
  obtain ⟨rfl, hrest⟩ : key = "a\\=bc" ∧ gap ++ value = " = d\\\\\\u0041" :=
    ⟨(congrArg Prod.fst hsplit).symm, (congrArg Prod.snd hsplit).symm⟩
  have hd : value = "d\\\\\\u0041" := by rw [← hvalue, hrest]; rfl
  refine ⟨hl, fun dangling => ⟨?_, ?_⟩⟩
  · exact (hread "a\\=bc" (by simp)).2 dangling
  · exact (hread "d\\\\\\u0041" (by simp [hd])).2 dangling

end Properties

end Invocation
