import Invocation.Terminal.Markup

/-!
# Escaped markup

Markup without tags is shown without a fault, and escaped text has no tags: every tag that the text spells comes to
stand behind an odd number of backslashes, and no tag arises where there was none.
-/

namespace Invocation

namespace Terminal

/-! ## Tags as they are written -/

/-- What may stand between the brackets of a tag. -/
structure IsTagBody (body : Text) : Prop where
  starts : body.head?.any startsTag = true
  not_opens : .scalar '[' ∉ body
  not_closes : .scalar ']' ∉ body

theorem tagBody?_eq_some_iff {t body rest : Text} :
    tagBody? t = some (body, rest) ↔ .scalar '[' ∉ body ∧ .scalar ']' ∉ body ∧ t = body ++ .scalar ']' :: rest := by
  induction t generalizing body with
  | nil => simp [tagBody?]
  | cons c t ih =>
      rw [tagBody?]
      split
      · rename_i hopens
        cases body <;> simp +contextual [hopens]
      · split
        · rename_i _ hcloses
          cases body <;> simp +contextual [hcloses]
        · rename_i hopens hcloses
          cases body with
          | nil => simpa using fun h => absurd h hcloses
          | cons d body =>
              simp only [Option.map_eq_some_iff, Prod.exists, Prod.mk.injEq, List.cons.injEq, List.mem_cons, not_or,
                List.cons_append]
              constructor
              · rintro ⟨body, rest, h, ⟨rfl, rfl⟩, rfl⟩
                obtain ⟨hnotOpens, hnotCloses, rfl⟩ := ih.mp h
                exact ⟨⟨Ne.symm hopens, hnotOpens⟩, ⟨Ne.symm hcloses, hnotCloses⟩, rfl, rfl⟩
              · rintro ⟨⟨-, hnotOpens⟩, ⟨-, hnotCloses⟩, rfl, rfl⟩
                exact ⟨body, rest, ih.mpr ⟨hnotOpens, hnotCloses, rfl⟩, ⟨rfl, rfl⟩, rfl⟩

namespace TagMatch

theorem ofText?_backslash (t : Text) :
    ofText? (.scalar '\\' :: t) = (ofText? t).map fun m => ⟨m.backslashes + 1, m.body⟩ := by
  have hdrop : (CodePoint.scalar '\\' :: t).dropWhile isBackslash = t.dropWhile isBackslash := rfl
  have htake : (CodePoint.scalar '\\' :: t).takeWhile isBackslash = .scalar '\\' :: t.takeWhile isBackslash := rfl
  rw [ofText?, ofText?, hdrop, htake]
  split
  · split
    · simp [Option.map_map, Function.comp_def]
    · rfl
  · rfl

theorem ofText?_open (t : Text) :
    ofText? (.scalar '[' :: t) =
      if t.head?.any startsTag then (tagBody? t).map fun (body, _) => ⟨0, body⟩ else none := by
  have hdrop : (CodePoint.scalar '[' :: t).dropWhile isBackslash = .scalar '[' :: t := rfl
  have htake : (CodePoint.scalar '[' :: t).takeWhile isBackslash = [] := rfl
  rw [ofText?, hdrop, htake]
  cases t <;> rfl

theorem ofText?_other {c : CodePoint} (hbackslash : c ≠ .scalar '\\') (hopens : c ≠ .scalar '[') (t : Text) :
    ofText? (c :: t) = none := by
  have hnot : isBackslash c = false := decide_eq_false hbackslash
  rw [ofText?, List.dropWhile_cons, hnot, if_neg Bool.false_ne_true]
  split
  · rename_i heq
    exact absurd (List.cons.inj heq).1 hopens
  · rfl

/-- A tag in brackets, behind backslashes and with more text after it, is read as such, and nothing else is. -/
theorem ofText?_eq_some_iff {t : Text} {m : TagMatch} :
    ofText? t = some m ↔ IsTagBody m.body ∧ ∃ rest, t = Text.fill m.backslashes '\\' ++ (m.text ++ rest) := by
  obtain ⟨k, body⟩ := m
  induction t generalizing k with
  | nil => simp [ofText?, text, Text.ofString]
  | cons c t ih =>
      by_cases hbackslash : c = .scalar '\\'
      · subst hbackslash
        rw [ofText?_backslash]
        cases k with
        | zero => simp [text, Text.fill, Text.ofString]
        | succ k =>
            have hmap : ((ofText? t).map fun m => ⟨m.backslashes + 1, m.body⟩) = some (⟨k + 1, body⟩ : TagMatch) ↔
                ofText? t = some ⟨k, body⟩ := by
              cases ofText? t with
              | none => simp
              | some m => obtain ⟨_, _⟩ := m; simp
            rw [hmap, ih]
            simp [text, Text.fill, List.replicate_succ]
      · by_cases hopens : c = .scalar '['
        · subst hopens
          rw [ofText?_open]
          constructor
          · intro h
            split at h
            · rename_i hstarts
              obtain ⟨⟨body, rest⟩, hbody, heq⟩ := Option.map_eq_some_iff.mp h
              cases heq
              obtain ⟨hnotOpens, hnotCloses, rfl⟩ := tagBody?_eq_some_iff.mp hbody
              refine ⟨⟨?_, hnotOpens, hnotCloses⟩, rest, by simp [text, Text.fill, Text.ofString]⟩
              cases body with
              | nil => cases hstarts
              | cons d body => exact hstarts
            · cases h
          · rintro ⟨⟨hstarts, hnotOpens, hnotCloses⟩, rest, heq⟩
            cases k with
            | zero =>
                have ht : t = body ++ .scalar ']' :: rest := by
                  simpa [text, Text.fill, Text.ofString] using heq
                have hhead : t.head?.any startsTag = true := by
                  subst ht
                  cases body with
                  | nil => cases hstarts
                  | cons d body => exact hstarts
                rw [if_pos hhead, tagBody?_eq_some_iff.mpr ⟨hnotOpens, hnotCloses, ht⟩]
                rfl
            | succ k => simp [Text.fill, List.replicate_succ] at heq
        · rw [ofText?_other hbackslash hopens]
          cases k with
          | zero => simp [text, Text.fill, Text.ofString, hopens]
          | succ k => simp [Text.fill, List.replicate_succ, hbackslash]

end TagMatch

/-! ## Equations -/

theorem escapeTags_eq_drop (skip : Nat) (t : Text) : escapeTags skip t = escapeTags 0 (t.drop skip) := by
  induction t generalizing skip with
  | nil => simp [escapeTags]
  | cons c t ih =>
      cases skip with
      | zero => rfl
      | succ skip => rw [escapeTags, ih, List.drop_succ_cons]

theorem escapeTags_cons {c : CodePoint} {t : Text} (h : TagMatch.ofText? (c :: t) = none) :
    escapeTags 0 (c :: t) = c :: escapeTags 0 t := by
  simp only [escapeTags, h]

/-- What is left of a text behind a tag with its backslashes. -/
theorem drop_tag {m : TagMatch} {c : CodePoint} {t rest : Text}
    (h : c :: t = Text.fill m.backslashes '\\' ++ (m.text ++ rest)) : t.drop (m.length - 1) = rest := by
  have hlength : m.length = (Text.fill m.backslashes '\\' ++ m.text).length := by
    simp [TagMatch.length, TagMatch.text, Text.fill, Text.ofString]
    omega
  have hpositive : m.length = m.length - 1 + 1 := by
    simp only [TagMatch.length]
    omega
  have hdrop : (c :: t).drop m.length = rest := by rw [h, ← List.append_assoc, hlength, List.drop_left]
  rwa [hpositive, List.drop_succ_cons] at hdrop

/-- A tag is escaped by doubling the backslashes before it and one more. -/
theorem escapeTags_tag {m : TagMatch} {t : Text} (h : TagMatch.ofText? t = some m) :
    ∃ rest, t = Text.fill m.backslashes '\\' ++ (m.text ++ rest) ∧ rest.length < t.length ∧
      escapeTags 0 t = Text.fill (2 * m.backslashes + 1) '\\' ++ (m.text ++ escapeTags 0 rest) := by
  obtain ⟨-, rest, ht⟩ := TagMatch.ofText?_eq_some_iff.mp h
  cases t with
  | nil => cases h
  | cons c t =>
      refine ⟨rest, ht, ?_, ?_⟩
      · rw [← drop_tag ht, List.length_drop, List.length_cons]
        omega
      · simp only [escapeTags, h]
        rw [escapeTags_eq_drop, drop_tag ht, List.append_assoc]

theorem markupPieces_skip (position : Nat) (before : Text) (skip : Nat) (t : Text) :
    ∃ position', markupPieces position before skip t = markupPieces position' before 0 (t.drop skip) := by
  induction t generalizing position skip with
  | nil => exact ⟨position, by simp [markupPieces]⟩
  | cons c t ih =>
      cases skip with
      | zero => exact ⟨position, rfl⟩
      | succ skip =>
          obtain ⟨position', h⟩ := ih (position + 1) skip
          exact ⟨position', by rw [markupPieces, h, List.drop_succ_cons]⟩

/-- The pieces of a text that begins with a tag, behind some backslashes. -/
theorem markupPieces_tag {m : TagMatch} (hbody : IsTagBody m.body) (position : Nat) (before rest : Text) :
    ∃ position', markupPieces position before 0 (Text.fill m.backslashes '\\' ++ (m.text ++ rest)) =
      plainPiece before ++ m.pieces position ++ markupPieces position' [] 0 rest := by
  obtain ⟨c, t, ht⟩ : ∃ c t, Text.fill m.backslashes '\\' ++ (m.text ++ rest) = c :: t :=
    List.exists_cons_of_ne_nil (by simp [TagMatch.text, Text.ofString])
  have hmatch : TagMatch.ofText? (c :: t) = some m :=
    TagMatch.ofText?_eq_some_iff.mpr ⟨hbody, rest, ht.symm⟩
  obtain ⟨position', hskip⟩ := markupPieces_skip (position + 1) [] (m.length - 1) t
  refine ⟨position', ?_⟩
  rw [ht]
  simp only [markupPieces, hmatch]
  rw [hskip, drop_tag ht.symm]

theorem markupPieces_cons {c : CodePoint} {t : Text} (h : TagMatch.ofText? (c :: t) = none) (position : Nat)
    (before : Text) : markupPieces position before 0 (c :: t) = markupPieces (position + 1) (c :: before) 0 t := by
  simp only [markupPieces, h]

/-! ## No new tags -/

theorem tagBody?_fill (n : Nat) : tagBody? (Text.fill n '\\') = none := by
  induction n with
  | zero => rfl
  | succ n ih =>
      have hcons : Text.fill (n + 1) '\\' = .scalar '\\' :: Text.fill n '\\' := rfl
      rw [hcons, tagBody?, if_neg (by decide), if_neg (by decide), ih]
      rfl

/-- What comes before a bracket that opens a tag is no end of one. -/
theorem tagBody?_fill_open (n : Nat) (t : Text) : tagBody? (Text.fill n '\\' ++ .scalar '[' :: t) = none := by
  induction n with
  | zero => rfl
  | succ n ih =>
      have hcons : Text.fill (n + 1) '\\' ++ .scalar '[' :: t =
          .scalar '\\' :: (Text.fill n '\\' ++ .scalar '[' :: t) := rfl
      rw [hcons, tagBody?, if_neg (by decide), if_neg (by decide), ih]
      rfl

theorem TagMatch.ofText?_fill (n : Nat) : ofText? (Text.fill n '\\') = none := by
  induction n with
  | zero => rfl
  | succ n ih =>
      have hcons : Text.fill (n + 1) '\\' = .scalar '\\' :: Text.fill n '\\' := rfl
      rw [hcons, ofText?_backslash, ih]
      rfl

theorem head?_fill_startsTag (n : Nat) : (Text.fill n '\\').head?.any startsTag = false := by
  cases n <;> rfl

variable {t : Text} (n : Nat)

theorem tagBody?_escapeTags (h : tagBody? t = none) : tagBody? (escapeTags 0 t ++ Text.fill n '\\') = none := by
  induction t with
  | nil => exact tagBody?_fill n
  | cons c t ih =>
      cases hmatch : TagMatch.ofText? (c :: t) with
      | some m =>
          obtain ⟨rest, -, -, hescape⟩ := escapeTags_tag hmatch
          rw [hescape, List.append_assoc]
          exact tagBody?_fill_open _ _
      | none =>
          rw [escapeTags_cons hmatch, List.cons_append]
          rw [tagBody?] at h ⊢
          split
          · rfl
          · rename_i hopens
            rw [if_neg hopens] at h
            split
            · rename_i hcloses
              rw [if_pos hcloses] at h
              cases h
            · rename_i hcloses
              rw [if_neg hcloses, Option.map_eq_none_iff] at h
              rw [ih h]
              rfl

theorem head?_escapeTags (h : t.head?.any startsTag = false) :
    (escapeTags 0 t ++ Text.fill n '\\').head?.any startsTag = false := by
  cases t with
  | nil => exact head?_fill_startsTag n
  | cons c t =>
      cases hmatch : TagMatch.ofText? (c :: t) with
      | some m =>
          obtain ⟨rest, -, -, hescape⟩ := escapeTags_tag hmatch
          rw [hescape]
          rfl
      | none => rwa [escapeTags_cons hmatch]

/-- Where no tag begins, none begins after the rest has been escaped. -/
theorem TagMatch.ofText?_escapeTags (h : ofText? t = none) :
    ofText? (escapeTags 0 t ++ Text.fill n '\\') = none := by
  induction t with
  | nil => exact ofText?_fill n
  | cons c t ih =>
      rw [escapeTags_cons h, List.cons_append]
      by_cases hbackslash : c = .scalar '\\'
      · subst hbackslash
        rw [ofText?_backslash, Option.map_eq_none_iff] at h ⊢
        exact ih h
      · by_cases hopens : c = .scalar '['
        · subst hopens
          rw [ofText?_open] at h ⊢
          cases hstarts : t.head?.any startsTag with
          | false => rw [head?_escapeTags n hstarts, if_neg Bool.false_ne_true]
          | true =>
              rw [hstarts, if_pos rfl, Option.map_eq_none_iff] at h
              rw [tagBody?_escapeTags n h, Option.map_none, ite_self]
        · exact ofText?_other hbackslash hopens _

/-! ## Inert text -/

/-- A text is inert if no part of it is read as a tag, whatever comes before it. -/
def IsInert (t : Text) : Prop :=
  ∀ position before, ∀ piece ∈ markupPieces position before 0 t, ∃ u, piece = .plain u

theorem exists_plain_of_mem_plainPiece {before : Text} {piece : MarkupPiece} (h : piece ∈ plainPiece before) :
    ∃ u, piece = .plain u := by
  rw [plainPiece] at h
  split at h
  · cases h
  · exact ⟨_, List.mem_singleton.mp h⟩

/-- A tag behind an odd number of backslashes is plain text. -/
theorem exists_plain_of_mem_pieces {k position : Nat} {body : Text} {piece : MarkupPiece}
    (h : piece ∈ (TagMatch.mk (2 * k + 1) body).pieces position) : ∃ u, piece = .plain u := by
  have hodd : (2 * k + 1) % 2 = 1 := by omega
  simp only [TagMatch.pieces, hodd, List.mem_append] at h
  obtain h | h := h
  · split at h
    · cases h
    · exact ⟨_, List.mem_singleton.mp h⟩
  · exact ⟨_, List.mem_singleton.mp h⟩

theorem isInert_nil : IsInert [] := fun _ _ _ hpiece => exists_plain_of_mem_plainPiece hpiece

theorem IsInert.cons {c : CodePoint} (h : TagMatch.ofText? (c :: t) = none) (ht : IsInert t) : IsInert (c :: t) := by
  intro position before piece hpiece
  rw [markupPieces_cons h] at hpiece
  exact ht _ _ _ hpiece

theorem isInert_of_not_mem (h : .scalar '[' ∉ t) : IsInert t := by
  induction t with
  | nil => exact isInert_nil
  | cons c t ih =>
      refine .cons (Option.eq_none_iff_forall_ne_some.mpr fun m hmatch => h ?_) (ih (List.not_mem_of_not_mem_cons h))
      obtain ⟨-, rest, htext⟩ := TagMatch.ofText?_eq_some_iff.mp hmatch
      rw [htext]
      simp [TagMatch.text, Text.ofString]

theorem isInert_escapeTags (t : Text) : IsInert (escapeTags 0 t ++ Text.fill n '\\') := by
  induction hlength : t.length using Nat.strongRecOn generalizing t with
  | _ length ih =>
      subst hlength
      cases hmatch : TagMatch.ofText? t with
      | some m =>
          intro position before piece hpiece
          obtain ⟨hbody, -⟩ := TagMatch.ofText?_eq_some_iff.mp hmatch
          obtain ⟨rest, -, hshorter, hescape⟩ := escapeTags_tag hmatch
          obtain ⟨position', hpieces⟩ :=
            markupPieces_tag (m := ⟨2 * m.backslashes + 1, m.body⟩) hbody position before
              (escapeTags 0 rest ++ Text.fill n '\\')
          have htag : m.text = (TagMatch.mk (2 * m.backslashes + 1) m.body).text := rfl
          rw [hescape, List.append_assoc, List.append_assoc, htag, hpieces] at hpiece
          obtain hpiece | hpiece := List.mem_append.mp hpiece
          · obtain hpiece | hpiece := List.mem_append.mp hpiece
            · exact exists_plain_of_mem_plainPiece hpiece
            · exact exists_plain_of_mem_pieces hpiece
          · exact ih rest.length hshorter rest rfl _ _ _ hpiece
      | none =>
          cases t with
          | nil => exact isInert_of_not_mem (by simp [escapeTags, Text.fill])
          | cons c t =>
              have hnone := TagMatch.ofText?_escapeTags n hmatch
              rw [escapeTags_cons hmatch, List.cons_append] at hnone ⊢
              exact .cons hnone (ih t.length (Nat.lt_succ_self _) t rfl)

theorem escapeMarkup_eq (t : Text) : ∃ n, escapeMarkup t = escapeTags 0 t ++ Text.fill n '\\' := by
  rw [escapeMarkup]
  split
  · exact ⟨0, (List.append_nil _).symm⟩
  · exact ⟨1, rfl⟩
  · exact ⟨0, (List.append_nil _).symm⟩

theorem isInert_escapeMarkup (t : Text) : IsInert (escapeMarkup t) := by
  obtain ⟨n, h⟩ := escapeMarkup_eq t
  rw [h]
  exact isInert_escapeTags n t

example : escapeMarkup "dirs\\[/etc] [b" = "dirs\\\\\\[/etc] [b" := by decide

end Terminal

end Invocation
