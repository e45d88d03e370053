import Invocation.Text.Basic

/-!
# Quotes in a text

Double quotes open and close in turn, so what follows an odd number of them stands inside of quotes. A text is cut at
the spaces outside of quotes, and what is put together from closed pieces is cut into these pieces again.
-/

namespace Invocation

namespace Text

/-! ## Open and closed texts -/

/-- Whether the text holds an odd number of double quotes, so that what follows it stands inside of quotes. -/
def opensQuotes (t : Text) : Bool := t.count (.scalar '"') % 2 == 1

@[simp] theorem opensQuotes_nil : opensQuotes [] = false := rfl

@[simp] theorem opensQuotes_append (a b : Text) : opensQuotes (a ++ b) = (opensQuotes a ^^ opensQuotes b) := by
  simp only [opensQuotes, List.count_append]
  rcases Nat.mod_two_eq_zero_or_one (List.count (.scalar '"') a) with ha | ha <;>
    rcases Nat.mod_two_eq_zero_or_one (List.count (.scalar '"') b) with hb | hb <;>
    simp [Nat.add_mod, ha, hb]

theorem opensQuotes_singleton (c : CodePoint) : opensQuotes [c] = decide (c = '"') := by
  by_cases h : c = '"' <;> simp [opensQuotes, h]

@[simp] theorem opensQuotes_cons (c : CodePoint) (t : Text) :
    opensQuotes (c :: t) = (decide (c = '"') ^^ opensQuotes t) := by
  rw [← List.singleton_append, opensQuotes_append, opensQuotes_singleton]

theorem opensQuotes_of_not_mem {t : Text} (h : .scalar '"' ∉ t) : t.opensQuotes = false := by
  simp [opensQuotes, List.count_eq_zero_of_not_mem h]

/-! ## Every place of a text -/

/-- Every code point of the text, with what stands before and after it, satisfies `P`. -/
def Each (P : Text → CodePoint → Text → Prop) (t : Text) : Prop :=
  ∀ before c after, t = before ++ c :: after → P before c after

section Each

variable {P Q : Text → CodePoint → Text → Prop}

theorem Each.imp {t : Text} (h : t.Each P) (hPQ : ∀ before c after, P before c after → Q before c after) :
    t.Each Q :=
  fun before c after e => hPQ before c after (h before c after e)

theorem each_nil : Each P [] := by
  intro before c after h
  simp at h

theorem each_append {a b : Text} :
    Each P (a ++ b) ↔
      Each (fun before c after => P before c (after ++ b)) a ∧ Each (fun before => P (a ++ before)) b := by
  constructor
  · intro h
    refine ⟨fun before c after e => h _ _ _ ?_, fun before c after e => h _ _ _ ?_⟩
    · simp [e]
    · simp [e]
  · rintro ⟨ha, hb⟩ before c after h
    rcases List.append_eq_append_iff.mp h with ⟨r, hr, hb'⟩ | ⟨r, hr, ha'⟩
    · exact hr ▸ hb r c after hb'
    · cases r with
      | nil =>
          simp only [List.append_nil, List.nil_append] at hr ha'
          simpa [hr] using hb [] c after ha'.symm
      | cons d r =>
          simp only [List.cons_append, List.cons.injEq] at ha'
          obtain ⟨rfl, rfl⟩ := ha'
          exact ha before c r hr

theorem each_cons {c : CodePoint} {t : Text} :
    Each P (c :: t) ↔ P [] c t ∧ Each (fun before => P (c :: before)) t := by
  constructor
  · intro h
    exact ⟨h [] c t rfl, fun before d after e => h (c :: before) d after (by simp [e])⟩
  · rintro ⟨hc, ht⟩ before d after h
    cases before with
    | nil =>
        simp only [List.nil_append, List.cons.injEq] at h
        exact h.1 ▸ h.2 ▸ hc
    | cons e before =>
        simp only [List.cons_append, List.cons.injEq] at h
        exact h.1 ▸ ht before d after h.2

end Each

/-! ## Cutting -/

/-- The pieces of the text between the spaces with an even number of double quotes before them, where `before` stands
before the text. -/
def cutFrom (before : Text) : Text → List Text
  | [] => [[]]
  | c :: r =>
    if c = ' ' ∧ before.opensQuotes = false then [] :: cutFrom (before ++ [c]) r
    else (cutFrom (before ++ [c]) r).modifyHead (c :: ·)

/-- The pieces of the text between the spaces with an even number of double quotes before them. -/
def cutOutsideQuotes (t : Text) : List Text := cutFrom [] t

/-- All spaces of the text stand inside of quotes, and all quotes are closed at its end. -/
structure Whole (t : Text) : Prop where
  spaces : t.Each fun before c _ => c = ' ' → before.opensQuotes = true
  closed : t.opensQuotes = false

/-- What stands before a text counts for nothing but its quotes. -/
theorem cutFrom_congr {a b : Text} (h : a.opensQuotes = b.opensQuotes) (t : Text) : cutFrom a t = cutFrom b t := by
  induction t generalizing a b with
  | nil => rfl
  | cons c r ih => simp only [cutFrom, h, ih (a := a ++ [c]) (b := b ++ [c]) (by simp [h])]

/-- A text with all its spaces inside of quotes belongs to the first piece. -/
theorem cutFrom_append (before : Text) {t : Text}
    (hs : t.Each fun b c _ => c = ' ' → opensQuotes (before ++ b) = true) (u : Text) :
    cutFrom before (t ++ u) = (cutFrom (before ++ t) u).modifyHead (t ++ ·) := by
  induction t generalizing before with
  | nil =>
      rw [List.append_nil]
      exact (congrFun List.modifyHead_id (cutFrom before u)).symm
  | cons c r ih =>
      obtain ⟨h, hr⟩ := each_cons.mp hs
      have hn : ¬(c = ' ' ∧ before.opensQuotes = false) := by
        rintro ⟨e, ho⟩
        simp [ho] at h
        exact h e
      have hcut : cutFrom (before ++ [c]) (r ++ u) = (cutFrom (before ++ [c] ++ r) u).modifyHead (r ++ ·) :=
        ih _ (by simpa using hr)
      rw [List.cons_append, cutFrom, if_neg hn, hcut, List.modifyHead_modifyHead, List.append_assoc]
      rfl

namespace Whole

variable {t : Text} (h : t.Whole)
include h

theorem cut : cutOutsideQuotes t = [t] := by
  have hcut := cutFrom_append [] h.spaces []
  rwa [List.append_nil, cutFrom, List.modifyHead_cons, List.append_nil] at hcut

/-- A piece with all its spaces inside quotes ends at the space behind it. -/
theorem cut_cons (rest : Text) : cutOutsideQuotes (t ++ .scalar ' ' :: rest) = t :: cutOutsideQuotes rest := by
  have hclosed : opensQuotes (t ++ [.scalar ' ']) = opensQuotes [] := by simp [h.closed]
  rw [cutOutsideQuotes, cutFrom_append [] h.spaces, List.nil_append, cutFrom, if_pos ⟨rfl, h.closed⟩,
    cutFrom_congr hclosed, List.modifyHead_cons, List.append_nil, cutOutsideQuotes]

end Whole

end Text

end Invocation
