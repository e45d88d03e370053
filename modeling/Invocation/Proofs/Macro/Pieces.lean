import Mathlib.Data.List.TakeWhile
import Invocation.Macro.Template
import Invocation.Proofs.Text.Basic

/-!
# How a template is read

A template can be read in one way only. The reading is described piece by piece from the left, without saying how the
end of a piece is found.
-/

namespace Invocation

namespace Macro

/-! ## Readings -/

/-- A dollar sign in front of the text begins more than itself: it is doubled, or a name or something in braces
follows it. -/
inductive Refers : Text → Prop where
  | dollar (t : Text) : Refers (.scalar '$' :: t)
  | named {c : CodePoint} (h : isNameCharacter c = true) (t : Text) : Refers (c :: t)
  | braced {body : Text} (hne : body ≠ []) (hbody : .scalar '\x7d' ∉ body) (t : Text) :
      Refers (.scalar '\x7b' :: (body ++ .scalar '\x7d' :: t))

/-- The pieces as which a template is read. Braces are closed by the first that can close them, a name goes as far as it
can, and any other dollar sign is an ordinary character. -/
inductive Reads : Text → List Piece → Prop where
  | nil : Reads [] []
  | literal {c : CodePoint} {t : Text} {ps : List Piece} (h : c ≠ .scalar '$') (ht : Reads t ps) :
      Reads (c :: t) (.literal c :: ps)
  | dollar {t : Text} {ps : List Piece} (ht : Reads t ps) : Reads (.scalar '$' :: .scalar '$' :: t) (.dollar :: ps)
  | named {name t : Text} {ps : List Piece} (hne : name ≠ []) (hname : ∀ c ∈ name, isNameCharacter c = true)
      (hend : ∀ c ∈ t.head?, isNameCharacter c = false) (ht : Reads t ps) :
      Reads (.scalar '$' :: (name ++ t)) (.named name :: ps)
  | braced {body t : Text} {ps : List Piece} (hne : body ≠ []) (hbody : .scalar '\x7d' ∉ body) (ht : Reads t ps) :
      Reads (.scalar '$' :: .scalar '\x7b' :: (body ++ .scalar '\x7d' :: t)) (.braced body :: ps)
  | lone {t : Text} {ps : List Piece} (h : ¬Refers t) (ht : Reads t ps) :
      Reads (.scalar '$' :: t) (.literal (.scalar '$') :: ps)

/-! ## References -/

variable {name body t : Text}

theorem bracedBody?_eq_some_iff {rest : Text} :
    bracedBody? t = some (body, rest) ↔ body ≠ [] ∧ .scalar '\x7d' ∉ body ∧ t = body ++ .scalar '\x7d' :: rest := by
  unfold bracedBody?
  constructor
  · intro h
    split at h
    · rename_i c b r hcut
      cases h
      exact ⟨List.cons_ne_nil c b, Text.cutAt_eq_some_iff.mp hcut⟩
    · cases h
  · rintro ⟨hne, hbody⟩
    obtain ⟨c, b, rfl⟩ := List.exists_cons_of_ne_nil hne
    rw [Text.cutAt_eq_some_iff.mpr hbody]

theorem reference_dollar (t : Text) : reference (.scalar '$' :: t) = (.dollar, t) := rfl

theorem reference_braced (hne : body ≠ []) (hbody : .scalar '\x7d' ∉ body) (t : Text) :
    reference (.scalar '\x7b' :: (body ++ .scalar '\x7d' :: t)) = (.braced body, t) := by
  simp only [reference, bracedBody?_eq_some_iff.mpr ⟨hne, hbody, rfl⟩]

theorem reference_eq {c : CodePoint} (hdollar : c ≠ .scalar '$') (hbrace : c ≠ .scalar '\x7b') (t : Text) :
    reference (c :: t) =
      match (c :: t).takeWhile isNameCharacter with
      | [] => (.literal (.scalar '$'), c :: t)
      | name => (.named name, (c :: t).dropWhile isNameCharacter) := by
  rw [reference.eq_def]
  grind

theorem ne_of_isNameCharacter {c : CodePoint} (h : isNameCharacter c = true) :
    c ≠ .scalar '$' ∧ c ≠ .scalar '\x7b' := by
  constructor <;> rintro rfl <;> exact absurd h (by decide)

theorem reference_named (hne : name ≠ []) (hname : ∀ c ∈ name, isNameCharacter c = true)
    (hend : ∀ c ∈ t.head?, isNameCharacter c = false) : reference (name ++ t) = (.named name, t) := by
  have htake : (name ++ t).takeWhile isNameCharacter = name := by
    rw [List.takeWhile_append_of_pos hname]
    cases t with
    | nil => simp
    | cons c t => rw [List.takeWhile_cons_of_neg (by simp [hend c rfl]), List.append_nil]
  have hdrop : (name ++ t).dropWhile isNameCharacter = t := by
    rw [List.dropWhile_append_of_pos hname]
    cases t with
    | nil => rfl
    | cons c t => rw [List.dropWhile_cons_of_neg (by simp [hend c rfl])]
  obtain ⟨c, r, rfl⟩ := List.exists_cons_of_ne_nil hne
  obtain ⟨hdollar, hbrace⟩ := ne_of_isNameCharacter (hname c List.mem_cons_self)
  rw [List.cons_append] at htake hdrop ⊢
  rw [reference_eq hdollar hbrace, htake, hdrop]

/-- A name character stands at the beginning of a longest name. -/
theorem exists_name {c : CodePoint} (h : isNameCharacter c = true) (t : Text) :
    ∃ name rest : Text, c :: t = name ++ rest ∧ name ≠ [] ∧ (∀ d ∈ name, isNameCharacter d = true) ∧
      ∀ d ∈ rest.head?, isNameCharacter d = false := by
  refine ⟨(c :: t).takeWhile isNameCharacter, (c :: t).dropWhile isNameCharacter,
    List.takeWhile_append_dropWhile.symm, by simp [h], fun d hd => List.mem_takeWhile_imp hd, fun d hd => ?_⟩
  have hfirst := List.head?_dropWhile_not isNameCharacter (c :: t)
  rw [Option.mem_def.mp hd] at hfirst
  exact hfirst

theorem reference_lone (h : ¬Refers t) : reference t = (.literal (.scalar '$'), t) := by
  cases t with
  | nil => rfl
  | cons c t =>
      have hdollar : c ≠ .scalar '$' := by
        rintro rfl
        exact h (.dollar t)
      by_cases hbrace : c = .scalar '\x7b'
      · have hnone : bracedBody? t = none := by
          refine Option.eq_none_iff_forall_ne_some.mpr fun ⟨body, rest⟩ hsome => ?_
          obtain ⟨hne, hbody, rfl⟩ := bracedBody?_eq_some_iff.mp hsome
          exact h (hbrace ▸ .braced hne hbody rest)
        simp only [hbrace, reference, hnone]
      · have hname : ¬isNameCharacter c = true := fun hname => h (.named hname t)
        rw [reference_eq hdollar hbrace, List.takeWhile_cons_of_neg hname]

/-! ## Pieces -/

theorem pieces_of_ne {c : CodePoint} (h : c ≠ .scalar '$') (t : Text) : pieces (c :: t) = .literal c :: pieces t := by
  rw [pieces, if_neg h]

theorem pieces_reference (t : Text) : pieces (.scalar '$' :: t) = (reference t).1 :: pieces (reference t).2 := by
  rw [pieces, if_pos rfl]

theorem pieces_eq_of_reads {ps : List Piece} (h : Reads t ps) : pieces t = ps := by
  induction h with
  | nil => rw [pieces]
  | literal h _ ih => rw [pieces_of_ne h, ih]
  | dollar _ ih => rw [pieces_reference, reference_dollar, ih]
  | named hne hname hend _ ih => rw [pieces_reference, reference_named hne hname hend, ih]
  | braced hne hbody _ ih => rw [pieces_reference, reference_braced hne hbody, ih]
  | lone h _ ih => rw [pieces_reference, reference_lone h, ih]

/-- A dollar sign is read with what it begins, whatever that is. -/
theorem Reads.reference {t : Text} {ps : List Piece} (h : Reads (reference t).2 ps) :
    Reads (.scalar '$' :: t) ((Macro.reference t).1 :: ps) := by
  by_cases href : Refers t
  · cases href with
    | dollar t => exact .dollar h
    | named hc t =>
        obtain ⟨name, rest, heq, hne, hname, hend⟩ := exists_name hc t
        rw [heq, reference_named hne hname hend] at h ⊢
        exact .named hne hname hend h
    | braced hne hbody t =>
        rw [reference_braced hne hbody] at h ⊢
        exact .braced hne hbody h
  · rw [reference_lone href] at h ⊢
    exact .lone href h

theorem reads_pieces (t : Text) : Reads t (pieces t) := by
  induction t using pieces.induct with
  | case1 =>
      rw [pieces]
      exact .nil
  | case2 t _ ih =>
      rw [pieces_reference]
      exact .reference ih
  | case3 c t hc ih =>
      rw [pieces_of_ne hc]
      exact .literal hc ih

/-- There is one way to read a template. -/
theorem reads_iff {ps : List Piece} : Reads t ps ↔ ps = pieces t :=
  ⟨fun h => (pieces_eq_of_reads h).symm, fun h => h ▸ reads_pieces t⟩

end Macro

end Invocation
