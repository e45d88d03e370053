import Invocation.Proofs.Terminal.EmojiCodes
import Invocation.Proofs.Terminal.Lines
import Invocation.Proofs.Terminal.Reading
import Mathlib.Data.List.SplitBy

/-!
# Drawn text

A surrogate that stands alone cannot be written. What is drawn of a text has none unless the text has one itself:
drawing leaves code points out and adds spaces, emoji and ends of lines.
-/

namespace Invocation

/-! ## Texts that can be written -/

namespace Text

/-- The text can be written: it has no surrogate. -/
def IsWritable (t : Text) : Prop := ∀ c ∈ t, c.isSurrogate = false

theorem hasSurrogate_eq_false_iff {t : Text} : t.hasSurrogate = false ↔ t.IsWritable := by
  simp [hasSurrogate, IsWritable]

namespace IsWritable

variable {t u : Text}

theorem nil : IsWritable [] := fun _ hc => absurd hc List.not_mem_nil

theorem cons {c : CodePoint} (hc : c.isSurrogate = false) (ht : t.IsWritable) : IsWritable (c :: t) :=
  List.forall_mem_cons.mpr ⟨hc, ht⟩

theorem append (ht : t.IsWritable) (hu : u.IsWritable) : IsWritable (t ++ u) :=
  List.forall_mem_append.mpr ⟨ht, hu⟩

theorem of_subset (h : ∀ c ∈ u, c ∈ t) (ht : t.IsWritable) : u.IsWritable := fun c hc => ht c (h c hc)

theorem flatMap {α : Type} {xs : List α} {f : α → Text} (h : ∀ x ∈ xs, (f x).IsWritable) :
    IsWritable (xs.flatMap f) := by
  intro c hc
  obtain ⟨x, hx, hcx⟩ := List.mem_flatMap.mp hc
  exact h x hx c hcx

theorem fill (n : Nat) (c : Char) : IsWritable (Text.fill n c) := by
  intro d hd
  rw [List.eq_of_mem_replicate hd]
  rfl

theorem ofString (s : String) : IsWritable (Text.ofString s) := by
  intro c hc
  obtain ⟨d, -, rfl⟩ := List.mem_map.mp hc
  rfl

theorem dropTrailing (p : CodePoint → Bool) (ht : t.IsWritable) : IsWritable (Text.dropTrailing p t) := by
  induction t with
  | nil => exact nil
  | cons c t ih =>
      obtain ⟨hc, ht⟩ := List.forall_mem_cons.mp ht
      have hrest := ih ht
      rw [Text.dropTrailing]
      split
      · split
        · exact nil
        · exact cons hc nil
      · exact cons hc hrest

theorem getLastD {ts : List Text} (h : ∀ t ∈ ts, t.IsWritable) : IsWritable (ts.getLastD []) := by
  rw [List.getLastD_eq_getLast?]
  cases hlast : ts.getLast? with
  | none => exact nil
  | some t => exact h t (List.mem_of_getLast? hlast)

theorem joinWith {separator : Text} {ts : List Text} (hseparator : separator.IsWritable)
    (h : ∀ t ∈ ts, t.IsWritable) : IsWritable (Text.joinWith separator ts) := by
  intro c hc
  obtain hc | ⟨t, ht, hc⟩ := mem_joinWith hc
  · exact hseparator c hc
  · exact h t ht c hc

end IsWritable

theorem isWritable_append_iff {t u : Text} : IsWritable (t ++ u) ↔ t.IsWritable ∧ u.IsWritable :=
  List.forall_mem_append

theorem isWritable_line {t : Text} : IsWritable (t ++ "\n") ↔ t.IsWritable := by
  rw [isWritable_append_iff]
  exact and_iff_left (.ofString "\n")

theorem IsWritable.splitAll {p : CodePoint → Bool} {t piece : Text} (h : t.IsWritable) (hpiece : piece ∈ t.splitAll p) :
    piece.IsWritable := h.of_subset fun c hc => (mem_of_mem_splitAll hpiece c hc).1

/-! ## Graphemes -/

theorem IsWritable.graphemesFrom {t : Text} (h : t.IsWritable) {begun : Grapheme} (hbegun : begun.text.IsWritable)
    (last : Option CodePoint) (joined : Bool) :
    ∀ g ∈ Text.graphemesFrom begun last joined t, g.text.IsWritable := by
  induction t generalizing begun last joined with
  | nil => exact List.forall_mem_singleton.mpr hbegun
  | cons c t ih =>
      obtain ⟨hc, ht⟩ := List.forall_mem_cons.mp h
      have hpush : ∀ added, (begun.push c added).text.IsWritable := fun _ => hbegun.append (.cons hc .nil)
      rw [Text.graphemesFrom]
      repeat' split
      all_goals first
        | exact ih ht (hpush _) _ _
        | exact List.forall_mem_cons.mpr ⟨hbegun, ih ht (.cons hc .nil) _ _⟩

theorem IsWritable.graphemes {t : Text} (h : t.IsWritable) : ∀ g ∈ t.graphemes, g.text.IsWritable := by
  cases t with
  | nil => exact fun _ hg => absurd hg List.not_mem_nil
  | cons c t =>
      obtain ⟨hc, ht⟩ := List.forall_mem_cons.mp h
      exact IsWritable.graphemesFrom ht (.cons hc .nil) _ _

theorem isWritable_fillRoom {gs : List Grapheme} (h : ∀ g ∈ gs, g.text.IsWritable) (room : Nat) :
    IsWritable (fillRoom room gs) := by
  induction gs generalizing room with
  | nil => exact .nil
  | cons g gs ih =>
      obtain ⟨hg, hgs⟩ := List.forall_mem_cons.mp h
      rw [fillRoom]
      split
      · exact .nil
      · split
        · exact .ofString " "
        · exact hg.append (ih hgs _)

theorem IsWritable.fitted {t : Text} (h : t.IsWritable) (width : Nat) : IsWritable (t.fitted width) := by
  rw [Text.fitted]
  split
  · exact h.append (.fill _ _)
  · exact isWritable_fillRoom h.graphemes width

theorem isWritable_of_mem_piecesFrom {gs : List Grapheme} (h : ∀ g ∈ gs, g.text.IsWritable) (width : Nat) {begun : Text}
    (hbegun : begun.IsWritable) (size : Nat) : ∀ piece ∈ piecesFrom width begun size gs, piece.IsWritable := by
  induction gs generalizing begun size with
  | nil =>
      rw [piecesFrom]
      split
      · exact fun _ hpiece => absurd hpiece List.not_mem_nil
      · exact List.forall_mem_singleton.mpr hbegun
  | cons g gs ih =>
      obtain ⟨hg, hgs⟩ := List.forall_mem_cons.mp h
      rw [piecesFrom]
      split
      · exact List.forall_mem_cons.mpr ⟨hbegun, ih hgs hg _⟩
      · exact ih hgs (hbegun.append hg) _

theorem IsWritable.pieces {t : Text} (h : t.IsWritable) (width : Nat) : ∀ piece ∈ t.pieces width, piece.IsWritable :=
  isWritable_of_mem_piecesFrom h.graphemes width .nil 0

end Text

namespace Terminal

open Text

/-! ## Lines -/

variable {t : Text}

theorem isWritable_withoutMoves (h : t.IsWritable) : (withoutMoves t).IsWritable :=
  h.of_subset fun _ hc => (List.mem_filter.mp hc).1

theorem isWritable_of_mem_linesOf (h : t.IsWritable) : ∀ line ∈ linesOf t, line.IsWritable :=
  fun _ hline => (isWritable_withoutMoves h).splitAll hline

theorem isWritable_expandTabs (h : t.IsWritable) : (expandTabs t).IsWritable := by
  intro c hc
  obtain ⟨hc, -⟩ | rfl := mem_expandTabs hc
  · exact h c hc
  · rfl

theorem isWritable_onTerminal (h : t.IsWritable) : (onTerminal t).IsWritable := by
  refine .joinWith (.ofString "\n") fun line hline => ?_
  obtain ⟨line, hmem, rfl⟩ := List.mem_map.mp hline
  exact isWritable_expandTabs (isWritable_of_mem_linesOf h line hmem)

theorem isWritable_of_mem_spacedWords (h : t.IsWritable) : ∀ word ∈ spacedWords t, word.IsWritable := by
  have hsplit : ∀ word ∈ t.splitBy fun a b => !(a.isBlank && !b.isBlank), Text.IsWritable word := by
    intro word hword
    refine h.of_subset fun c hc => ?_
    rw [← List.flatten_splitBy (fun a b => !(a.isBlank && !b.isBlank)) t]
    exact List.mem_flatten.mpr ⟨word, hword, hc⟩
  rw [spacedWords]
  split
  · rename_i first second rest heq
    rw [heq] at hsplit
    obtain ⟨hfirst, hrest⟩ := List.forall_mem_cons.mp hsplit
    obtain ⟨hsecond, hrest⟩ := List.forall_mem_cons.mp hrest
    split
    · exact List.forall_mem_cons.mpr ⟨hfirst.append hsecond, hrest⟩
    · exact hsplit
  · exact hsplit

theorem isWritable_of_mem_spread (o : Overflow) (width : Nat) (h : t.IsWritable) :
    ∀ part ∈ o.spread width t, part.IsWritable := by
  rw [Overflow.spread]
  split
  · exact h.pieces width
  · exact List.forall_mem_singleton.mpr h

theorem isWritable_cut (o : Overflow) (width : Nat) (h : t.IsWritable) : (o.cut width t).IsWritable := by
  rw [Overflow.cut.eq_def]
  split
  · exact h
  · cases o with
    | fold => exact h.fitted width
    | ellipsis => exact (h.fitted (width - 1)).append (.ofString "…")

theorem isWritable_of_mem_fillLines (o : Overflow) (width : Nat) {words : List Text}
    (hwords : ∀ word ∈ words, word.IsWritable) {line : Text} (hline : line.IsWritable) (column : Nat) :
    ∀ l ∈ fillLines o width line column words, l.IsWritable := by
  induction words generalizing line column with
  | nil => exact List.forall_mem_singleton.mpr hline
  | cons word words ih =>
      obtain ⟨hword, hrest⟩ := List.forall_mem_cons.mp hwords
      have hparts := isWritable_of_mem_spread o width hword
      rw [fillLines]
      split
      · exact ih hrest (hline.append hword) _
      · intro l hl
        obtain hl | hl := List.mem_append.mp hl
        · obtain hl | hl := List.mem_append.mp hl
          · split at hl
            · cases hl
            · rw [List.mem_singleton.mp hl]
              exact hline
          · exact hparts l (List.dropLast_subset _ hl)
        · exact ih hrest (.getLastD hparts) _ l hl

/-! ## Emoji -/

theorem isWritable_of_emoji? {name e : Text} (h : emoji? name = some e) : e.IsWritable := fun c hc =>
  IsWritable.ofString emojiNames c (mem_of_emoji? h c hc).1

/-- The form that a code asks for is one of the known forms. -/
theorem isWritable_of_codeEnd? {name form n : Text} {length l : Nat} (h : codeEnd? name length t = some (n, form, l)) :
    form.IsWritable := by
  have hforms : ∀ f ∈ forms, f.2.IsWritable := by
    simp only [forms, List.forall_mem_cons]
    exact ⟨.ofString _, .ofString _, .ofString _, fun _ hf => absurd hf List.not_mem_nil⟩
  obtain ⟨_, _, _, _, _, hcode⟩ := exists_of_codeEnd? h
  exact hforms _ hcode.known

theorem isWritable_emojiOrCode {code form : Text} (hcode : code.IsWritable) (hform : form.IsWritable) (name : Text) :
    (emojiOrCode code name form).IsWritable := by
  rw [emojiOrCode]
  cases he : emoji? name.lower with
  | none => exact hcode
  | some e => exact (isWritable_of_emoji? he).append hform

theorem isWritable_replaceCodes (skip : Nat) (h : t.IsWritable) : (replaceCodes skip t).IsWritable := by
  induction t generalizing skip with
  | nil => exact .nil
  | cons c t ih =>
      obtain ⟨hc, ht⟩ := List.forall_mem_cons.mp h
      cases skip with
      | succ skip => exact ih skip ht
      | zero =>
          rw [replaceCodes]
          split
          · rename_i name form length hcode
            refine .append (isWritable_emojiOrCode ?_ ?_ name) (ih length ht)
            · exact .cons hc (.of_subset (fun _ => List.mem_of_mem_take) ht)
            · split at hcode
              · exact isWritable_of_codeEnd? hcode
              · cases hcode
          · exact .cons hc (ih 0 ht)

/-! ## Markup -/

theorem IsLowerWord.isWritable {word : Text} (h : IsLowerWord word) : word.IsWritable := by
  intro c hc
  cases c with
  | scalar c => rfl
  | surrogate i =>
      have hhigh : 0xD800 + i.val ≤ 122 := of_decide_eq_true (Bool.and_eq_true_iff.mp (h.lower _ hc)).2
      omega

theorem isWritable_dropBracketEscapes (h : t.IsWritable) : (dropBracketEscapes t).IsWritable := by
  fun_induction dropBracketEscapes t with
  | case1 r ih => exact .cons rfl (ih fun c hc => h c (List.mem_cons_of_mem _ (List.mem_cons_of_mem _ hc)))
  | case2 c r _ ih => exact .cons (h c List.mem_cons_self) (ih fun c hc => h c (List.mem_cons_of_mem _ hc))
  | case3 => exact .nil

/-- The plain pieces can be written. -/
def ArePiecesWritable (ps : List MarkupPiece) : Prop := ∀ u, .plain u ∈ ps → u.IsWritable

theorem ArePiecesWritable.append {ps qs : List MarkupPiece} (hps : ArePiecesWritable ps) (hqs : ArePiecesWritable qs) :
    ArePiecesWritable (ps ++ qs) := fun u hu => (List.mem_append.mp hu).elim (hps u) (hqs u)

theorem arePiecesWritable_plainPiece {before : Text} (h : before.IsWritable) :
    ArePiecesWritable (plainPiece before) := by
  intro u hu
  rw [plainPiece] at hu
  split at hu
  · cases hu
  · cases List.mem_singleton.mp hu
    exact h.of_subset fun _ => List.mem_reverse.mp

theorem TagMatch.arePiecesWritable_pieces {m : TagMatch} (h : m.text.IsWritable) (position : Nat) :
    ArePiecesWritable (m.pieces position) := by
  refine .append ?_ ?_
  · intro u hu
    split at hu
    · cases hu
    · cases List.mem_singleton.mp hu
      exact .fill _ _
  · intro u hu
    split at hu
    · cases List.mem_singleton.mp hu
      exact h
    · cases List.mem_singleton.mp hu

theorem arePiecesWritable_markupPieces (h : t.IsWritable) (position : Nat) {before : Text} (hbefore : before.IsWritable)
    (skip : Nat) : ArePiecesWritable (markupPieces position before skip t) := by
  induction t generalizing position before skip with
  | nil => exact arePiecesWritable_plainPiece hbefore
  | cons c t ih =>
      obtain ⟨hc, ht⟩ := List.forall_mem_cons.mp h
      cases skip with
      | succ skip => exact ih ht _ hbefore skip
      | zero =>
          cases hmatch : TagMatch.ofText? (c :: t) with
          | none =>
              rw [markupPieces_cons hmatch]
              exact ih ht _ (.cons hc hbefore) 0
          | some m =>
              obtain ⟨-, rest, htext⟩ := TagMatch.ofText?_eq_some_iff.mp hmatch
              have hm : m.text.IsWritable := by
                refine .of_subset (fun d hd => ?_) h
                rw [htext]
                exact List.mem_append_right _ (List.mem_append_left _ hd)
              simp only [markupPieces, hmatch]
              exact ((arePiecesWritable_plainPiece hbefore).append (m.arePiecesWritable_pieces hm _)).append
                (ih ht _ .nil _)

theorem isWritable_of_ofPieces {ps : List MarkupPiece} (hps : ArePiecesWritable ps) {tags : Tags} {shown : Nat}
    {m : MarkedText} (h : MarkedText.ofPieces tags shown ps = .ok m) : m.text.IsWritable := by
  induction ps generalizing tags shown m with
  | nil =>
      cases h
      exact .nil
  | cons piece ps ih =>
      have hrest : ArePiecesWritable ps := fun u hu => hps u (List.mem_cons_of_mem _ hu)
      cases piece with
      | plain u =>
          rw [MarkedText.ofPieces] at h
          have hu := hps u List.mem_cons_self
          have hshown : (withoutMoves (withEmoji (dropBracketEscapes u))).IsWritable :=
            isWritable_withoutMoves (isWritable_replaceCodes 0 (isWritable_dropBracketEscapes hu))
          cases hm : MarkedText.ofPieces tags (shown + (withoutMoves (withEmoji (dropBracketEscapes u))).length) ps with
          | error f =>
              simp only [hm] at h
              cases h
          | ok rest =>
              simp only [hm] at h
              cases h
              exact hshown.append (ih hrest hm)
      | tag position body =>
          rw [MarkedText.ofPieces_tag] at h
          cases hpush : tags.push shown position body with
          | error f =>
              rw [hpush] at h
              cases h
          | ok tags =>
              rw [hpush] at h
              exact ih hrest h

end Terminal

end Invocation
