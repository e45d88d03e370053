import Mathlib.Data.List.Infix
import Invocation.Proofs.Text.Basic
import Invocation.Proofs.Text.Pieces
import Invocation.Terminal.Emoji

/-!
# Reading emoji codes

Codes are read from left to right, and no colon belongs to two of them. An emoji has no colon, so a text stays as it is
if and only if none of its codes has the name of an emoji.
-/

namespace Invocation

namespace Text

theorem after?_append (lead t : Text) : after? lead (lead ++ t) = some t := by
  induction lead with
  | nil => rfl
  | cons c lead ih => rw [List.cons_append, after?, if_pos rfl, ih]

theorem startsWith_iff {t lead : Text} : t.startsWith lead = true ↔ ∃ rest, t = lead ++ rest := by
  rw [startsWith, Option.isSome_iff_exists]
  constructor
  · rintro ⟨rest, h⟩
    exact ⟨rest, eq_of_after? h⟩
  · rintro ⟨rest, rfl⟩
    exact ⟨rest, after?_append lead rest⟩

end Text

namespace Terminal

variable {name ending form t : Text}

/-! ## Codes -/

/-- What stands behind a colon makes a code: a name without colons and blanks, and the longest of the endings that
fit. -/
structure IsCode (name ending form : Text) : Prop where
  known : (ending, form) ∈ forms
  plain : ∀ c ∈ name, c ≠ .scalar ':' ∧ c.isBlank = false
  longest : ∀ f ∈ forms, f.1 <:+ name ++ ending → f.1.length ≤ ending.length

/-- An ending is something without a colon, and a colon. -/
theorem exists_of_mem_forms (h : (ending, form) ∈ forms) :
    ∃ lead : Text, ending = lead ++ [.scalar ':'] ∧ .scalar ':' ∉ lead ∧ .scalar ':' ∉ form := by
  have hall : ∀ f ∈ forms,
      f.1 = f.1.dropLast ++ [.scalar ':'] ∧ .scalar ':' ∉ f.1.dropLast ∧ .scalar ':' ∉ f.2 := by decide
  exact ⟨ending.dropLast, hall _ h⟩

theorem colon_mem_forms : ((":", "") : Text × Text) ∈ forms := by decide

namespace IsCode

variable {c : CodePoint}

theorem of_mem_forms (h : (ending, form) ∈ forms) : IsCode [] ending form :=
  ⟨h, by simp, fun _ _ hsuffix => hsuffix.length_le⟩

theorem tail (h : IsCode (c :: name) ending form) : IsCode name ending form :=
  ⟨h.known, (List.forall_mem_cons.mp h.plain).2, fun f hf hsuffix =>
    h.longest f hf (hsuffix.trans (List.suffix_cons c (name ++ ending)))⟩

/-- A code has no colon but the one at its end. -/
theorem cutAt_eq (h : IsCode name ending form) (rest : Text) :
    ∃ lead, name ++ ending = lead ++ [.scalar ':'] ∧
      Text.cutAt (.scalar ':') (name ++ ending ++ rest) = some (lead, rest) := by
  obtain ⟨lead, rfl, hlead, -⟩ := exists_of_mem_forms h.known
  have hname : .scalar ':' ∉ name := fun hmem => (h.plain _ hmem).1 rfl
  refine ⟨name ++ lead, (List.append_assoc ..).symm, Text.cutAt_eq_some_iff.mpr ⟨?_, by simp⟩⟩
  exact fun hmem => (List.mem_append.mp hmem).elim hname hlead

/-- No ending stands where the name has still to come. -/
theorem not_startsWith (h : IsCode (c :: name) ending form) (rest : Text) {f : Text × Text} (hf : f ∈ forms) :
    ¬Text.startsWith (c :: name ++ ending ++ rest) f.1 = true := by
  intro hstarts
  obtain ⟨rest', heq⟩ := Text.startsWith_iff.mp hstarts
  -- both end at the first colon, so that the ending is the whole code, and longer than its own
  obtain ⟨lead, hcode, hcut⟩ := h.cutAt_eq rest
  have hbare : IsCode [] f.1 f.2 := of_mem_forms hf
  obtain ⟨lead', hother, hcut'⟩ := hbare.cutAt_eq rest'
  rw [heq] at hcut
  cases hcut.symm.trans hcut'
  have hwhole : f.1 = c :: name ++ ending := hother.trans hcode.symm
  have hlength := h.longest f hf (hwhole ▸ List.suffix_refl _)
  rw [hwhole, List.length_append, List.length_cons] at hlength
  omega

end IsCode

theorem codeEnd?_of_isCode (h : IsCode name ending form) (begun : Text) (length : Nat) (rest : Text) :
    codeEnd? begun length (name ++ ending ++ rest) =
      some (begun ++ name, form, length + name.length + ending.length) := by
  induction name generalizing begun length with
  | nil =>
      have hform := h.known
      simp only [forms, List.mem_cons, Prod.mk.injEq, List.not_mem_nil, or_false] at hform
      rcases hform with ⟨rfl, rfl⟩ | ⟨rfl, rfl⟩ | ⟨rfl, rfl⟩ <;>
        simp [codeEnd?, forms, Text.ofString, Text.startsWith, Text.after?]
  | cons c name ih =>
      obtain ⟨-, hc⟩ := h.plain c List.mem_cons_self
      have hnone : (forms.find? fun f => Text.startsWith (c :: name ++ ending ++ rest) f.1) = none :=
        List.find?_eq_none.mpr fun f hf => h.not_startsWith rest hf
      rw [List.cons_append, List.cons_append] at hnone ⊢
      rw [codeEnd?, hnone]
      simp only [hc, Bool.false_eq_true, if_false, ih h.tail]
      simp [Nat.add_assoc, Nat.add_comm 1]

theorem exists_of_codeEnd? {begun r n : Text} {length l : Nat} (h : codeEnd? begun length r = some (n, form, l)) :
    ∃ name ending rest, n = begun ++ name ∧ r = name ++ ending ++ rest ∧ IsCode name ending form := by
  induction r generalizing begun length with
  | nil => cases h
  | cons c r ih =>
      rw [codeEnd?] at h
      cases hfind : forms.find? fun f => Text.startsWith (c :: r) f.1 with
      | some f =>
          rw [hfind] at h
          cases h
          have hstarts := List.find?_some hfind
          obtain ⟨rest, hrest⟩ := Text.startsWith_iff.mp hstarts
          exact ⟨[], f.1, rest, (List.append_nil _).symm, hrest, .of_mem_forms (List.mem_of_find?_eq_some hfind)⟩
      | none =>
          have hno (f : Text × Text) (hf : f ∈ forms) (rest : Text) : c :: r ≠ f.1 ++ rest := fun heq =>
            List.find?_eq_none.mp hfind f hf (Text.startsWith_iff.mpr ⟨rest, heq⟩)
          rw [hfind] at h
          cases hc : c.isBlank with
          | true => simp [hc] at h
          | false =>
              simp only [hc, Bool.false_eq_true, if_false] at h
              obtain ⟨name, ending, rest, hn, hr, hcode⟩ := ih h
              have hwhole : c :: r = c :: name ++ ending ++ rest := by rw [hr]; rfl
              refine ⟨c :: name, ending, rest, by rw [hn, List.append_assoc]; rfl, hwhole, hcode.known, ?_, ?_⟩
              · refine List.forall_mem_cons.mpr ⟨⟨?_, hc⟩, hcode.plain⟩
                rintro rfl
                exact hno _ colon_mem_forms r rfl
              · intro f hf hsuffix
                rcases List.suffix_cons_iff.mp hsuffix with heq | hsuffix
                · exact absurd (by rw [heq]; exact hwhole) (hno f hf rest)
                · exact hcode.longest f hf hsuffix

/-! ## Readings -/

/-- A code stands where the text begins. -/
def BeginsWithCode (t : Text) : Prop :=
  ∃ name ending form rest, IsCode name ending form ∧ t = .scalar ':' :: (name ++ ending ++ rest)

/-- The names of the codes that are read in the text from left to right. -/
inductive HasCodes : Text → List Text → Prop where
  | nil : HasCodes [] []
  | code {name ending form t : Text} {names : List Text} (h : IsCode name ending form) (ht : HasCodes t names) :
      HasCodes (.scalar ':' :: (name ++ ending ++ t)) (name :: names)
  | other {c : CodePoint} {t : Text} {names : List Text} (h : ¬BeginsWithCode (c :: t)) (ht : HasCodes t names) :
      HasCodes (c :: t) names

theorem exists_hasCodes (t : Text) : ∃ names, HasCodes t names := by
  induction hlength : t.length using Nat.strongRecOn generalizing t with
  | _ length ih =>
      cases t with
      | nil => exact ⟨[], .nil⟩
      | cons c t =>
          by_cases hcode : BeginsWithCode (c :: t)
          · obtain ⟨name, ending, form, rest, h, heq⟩ := hcode
            have hshorter : rest.length < length := by
              rw [← hlength, heq, List.length_cons, List.length_append]
              omega
            obtain ⟨names, hnames⟩ := ih rest.length hshorter rest rfl
            exact ⟨name :: names, heq ▸ .code h hnames⟩
          · obtain ⟨names, hnames⟩ := ih t.length (by simp [← hlength]) t rfl
            exact ⟨names, .other hcode hnames⟩

theorem hasCodes_of_not_mem (h : .scalar ':' ∉ t) : HasCodes t [] := by
  induction t with
  | nil => exact .nil
  | cons c t ih =>
      rw [List.mem_cons, not_or] at h
      refine .other ?_ (ih h.2)
      rintro ⟨name, ending, form, rest, -, heq⟩
      exact h.1 (List.cons.inj heq).1.symm

theorem replaceCodes_append (u t : Text) : replaceCodes u.length (u ++ t) = replaceCodes 0 t := by
  induction u with
  | nil => rfl
  | cons c u ih => exact ih

theorem replaceCodes_code (h : IsCode name ending form) (t : Text) :
    replaceCodes 0 (.scalar ':' :: (name ++ ending ++ t)) =
      emojiOrCode (.scalar ':' :: (name ++ ending)) name form ++ replaceCodes 0 t := by
  have hlength : 0 + name.length + ending.length = (name ++ ending).length := by
    rw [Nat.zero_add, List.length_append]
  rw [replaceCodes, if_pos rfl, codeEnd?_of_isCode h, hlength]
  simp only [List.nil_append, List.take_left, replaceCodes_append]

theorem replaceCodes_other {c : CodePoint} (h : ¬BeginsWithCode (c :: t)) :
    replaceCodes 0 (c :: t) = c :: replaceCodes 0 t := by
  have hnone : (if c = .scalar ':' then codeEnd? [] 0 t else none) = none := by
    by_cases hc : c = .scalar ':'
    · rw [if_pos hc]
      refine Option.eq_none_iff_forall_ne_some.mpr fun x hx => h ?_
      obtain ⟨name, ending, rest, -, ht, hcode⟩ := exists_of_codeEnd? hx
      exact ⟨name, ending, x.2.1, rest, hcode, by rw [hc, ht]⟩
    · rw [if_neg hc]
  rw [replaceCodes, hnone]

/-! ## Emoji in place of codes -/

theorem mem_of_named? {names : List Text} {e : Text} (h : named? name names = some e) : e ∈ names := by
  fun_induction named? name names with
  | case1 written rest =>
      cases h
      exact List.mem_cons_of_mem _ List.mem_cons_self
  | case2 n written rest hne ih => exact List.mem_cons_of_mem _ (List.mem_cons_of_mem _ (ih h))
  | case3 => cases h

/-- An emoji is part of the list of emoji, and has no colon. -/
theorem mem_of_emoji? {e : Text} (h : emoji? name = some e) :
    ∀ c ∈ e, c ∈ Text.ofString emojiNames ∧ c ≠ .scalar ':' := by
  intro c hc
  obtain ⟨hmem, hplain⟩ := Text.mem_of_mem_splitAll (List.mem_filter.mp (mem_of_named? h)).1 c hc
  exact ⟨hmem, of_decide_eq_false (Bool.or_eq_false_iff.mp hplain).2⟩

/-- Whether an emoji has the name, in upper or lower case. -/
def isEmoji (name : Text) : Bool := (emoji? name.lower).isSome

/-- How many colons the text has. -/
def colons (t : Text) : Nat := t.countP fun c => c = .scalar ':'

theorem colons_append (u t : Text) : colons (u ++ t) = colons u + colons t := List.countP_append

theorem colons_eq_zero {u : Text} (h : .scalar ':' ∉ u) : colons u = 0 :=
  List.countP_eq_zero.mpr fun _ hc heq => h (of_decide_eq_true heq ▸ hc)

theorem colons_code (h : IsCode name ending form) : colons (.scalar ':' :: (name ++ ending)) = 2 := by
  obtain ⟨lead, hlead, hcut⟩ := h.cutAt_eq []
  have hplain : colons lead = 0 := colons_eq_zero (Text.cutAt_eq_some_iff.mp hcut).1
  rw [hlead, ← List.singleton_append, colons_append, colons_append, hplain]
  rfl

/-- The colons of a code go with it. -/
theorem colons_emojiOrCode (h : IsCode name ending form) :
    colons (emojiOrCode (.scalar ':' :: (name ++ ending)) name form) + 2 * (if isEmoji name then 1 else 0) = 2 := by
  rw [emojiOrCode, isEmoji]
  cases he : emoji? name.lower with
  | none => simp [colons_code h]
  | some e =>
      obtain ⟨-, -, -, hform⟩ := exists_of_mem_forms h.known
      have hnone : colons (e ++ form) = 0 := colons_eq_zero fun hmem =>
        (List.mem_append.mp hmem).elim (fun hmem => (mem_of_emoji? he _ hmem).2 rfl) hform
      simp [hnone]

theorem colons_withEmoji {names : List Text} (h : HasCodes t names) :
    colons (withEmoji t) + 2 * names.countP isEmoji = colons t := by
  rw [withEmoji]
  induction h with
  | nil => rfl
  | @code name ending form t names h _ ih =>
      have hcode := colons_emojiOrCode h
      have hcolons : colons (.scalar ':' :: (name ++ ending ++ t)) = 2 + colons t := by
        rw [← List.cons_append, colons_append, ← colons_code h]
      rw [replaceCodes_code h, colons_append, List.countP_cons]
      omega
  | @other c t names h _ ih =>
      have hcolons (u : Text) : colons (c :: u) = colons [c] + colons u := colons_append [c] u
      rw [replaceCodes_other h, hcolons t, hcolons (replaceCodes 0 t)]
      omega

/-- No code becomes an emoji if no colon is lost. -/
theorem isEmoji_eq_false_of_colons {names : List Text} (h : HasCodes t names)
    (hcolons : colons (withEmoji t) = colons t) : ∀ name ∈ names, isEmoji name = false := by
  have hsum := colons_withEmoji h
  have hnone : names.countP isEmoji = 0 := by omega
  exact fun name hname => Bool.eq_false_iff.mpr (List.countP_eq_zero.mp hnone name hname)

theorem withEmoji_eq_self {names : List Text} (h : HasCodes t names) (hnone : ∀ name ∈ names, isEmoji name = false) :
    withEmoji t = t := by
  rw [withEmoji]
  induction h with
  | nil => rfl
  | @code name ending form t names h _ ih =>
      obtain ⟨hname, hnames⟩ := List.forall_mem_cons.mp hnone
      have hcode : emojiOrCode (.scalar ':' :: (name ++ ending)) name form = .scalar ':' :: (name ++ ending) := by
        rw [emojiOrCode, Option.isNone_iff_eq_none.mp (Option.isSome_eq_false_iff.mp hname)]
        rfl
      rw [replaceCodes_code h, hcode, ih hnames, List.cons_append]
  | other h _ ih => rw [replaceCodes_other h, ih hnone]

end Terminal

end Invocation
