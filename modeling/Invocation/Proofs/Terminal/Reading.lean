import Invocation.Proofs.Terminal.StyleWords

/-!
# Reading markup

The tags of a markup text make sense if it has none, or if a part of it is in one style. A closing tag that matches no
open one is a fault.
-/

namespace Invocation

namespace Terminal

/-- The styles of the text make sense. -/
def MarkedText.HasStyles (m : MarkedText) : Prop := ∀ s ∈ m.spans, ∃ style, styleOf? s.style = .ok style

/-- The tags of the markup text make sense, wherever its lines end. -/
def Reads (markup : Text) : Prop := ∃ m, MarkedText.ofMarkup markup = .ok m ∧ m.HasStyles

/-! ## Plain text -/

namespace MarkedText

/-- The text with more text before it. -/
def behind (t : Text) (m : MarkedText) : MarkedText := { m with text := t ++ m.text }

variable (tags : Tags) (shown : Nat)

theorem ofPieces_plain_cons (t : Text) (ps : List MarkupPiece) :
    ∃ piece shown', ofPieces tags shown (.plain t :: ps) = (ofPieces tags shown' ps).map (behind piece) := by
  refine ⟨withoutMoves (withEmoji (dropBracketEscapes t)),
    shown + (withoutMoves (withEmoji (dropBracketEscapes t))).length, ?_⟩
  rw [ofPieces]
  cases ofPieces tags (shown + (withoutMoves (withEmoji (dropBracketEscapes t))).length) ps <;> rfl

theorem ofPieces_plainPiece (before : Text) (ps : List MarkupPiece) :
    ∃ piece shown', ofPieces tags shown (plainPiece before ++ ps) = (ofPieces tags shown' ps).map (behind piece) := by
  rw [plainPiece]
  split
  · refine ⟨[], shown, ?_⟩
    rw [List.nil_append]
    cases ofPieces tags shown ps <;> rfl
  · exact ofPieces_plain_cons tags shown before.reverse ps

theorem ofPieces_tag (position : Nat) (body : Text) (ps : List MarkupPiece) :
    ofPieces tags shown (.tag position body :: ps) =
      (tags.push shown position body).bind fun tags => ofPieces tags shown ps := by
  rw [ofPieces]
  rfl

/-- Without tags nothing can go wrong. -/
theorem ofPieces_of_plain {ps : List MarkupPiece} (h : ∀ piece ∈ ps, ∃ t, piece = .plain t) :
    ∃ t stop, ofPieces tags shown ps = .ok ⟨t, tags.spans stop⟩ := by
  induction ps generalizing shown with
  | nil => exact ⟨[], shown, rfl⟩
  | cons piece ps ih =>
      obtain ⟨⟨t, rfl⟩, hps⟩ := List.forall_mem_cons.mp h
      obtain ⟨piece, shown', hpiece⟩ := ofPieces_plain_cons tags shown t ps
      obtain ⟨rest, stop, hrest⟩ := ih shown' hps
      exact ⟨piece ++ rest, stop, by rw [hpiece, hrest]; rfl⟩

end MarkedText

theorem IsInert.reads {t : Text} (h : IsInert t) : Reads t := by
  obtain ⟨u, stop, hu⟩ := MarkedText.ofPieces_of_plain .empty 0 (h 0 [])
  refine ⟨_, hu, fun s hs => ?_⟩
  simp [Tags.spans, Tags.empty] at hs

/-- Escaped text can be shown, whatever it says. -/
theorem reads_escapeMarkup (t : Text) : Reads (escapeMarkup t) := (isInert_escapeMarkup t).reads

theorem reads_of_not_mem {t : Text} (h : .scalar '[' ∉ t) : Reads t := (isInert_of_not_mem h).reads

/-! ## Text in one style -/

/-- Text without brackets and backslashes. -/
def IsBare (t : Text) : Prop := .scalar '[' ∉ t ∧ .scalar '\\' ∉ t

instance (t : Text) : Decidable (IsBare t) := inferInstanceAs (Decidable (_ ∧ _))

theorem IsBare.append {t u : Text} (ht : IsBare t) (hu : IsBare u) : IsBare (t ++ u) :=
  ⟨fun h => (List.mem_append.mp h).elim ht.1 hu.1, fun h => (List.mem_append.mp h).elim ht.2 hu.2⟩

theorem IsBare.markupPieces {t : Text} (h : IsBare t) (position : Nat) (before rest : Text) :
    ∃ position', Terminal.markupPieces position before 0 (t ++ rest) =
      Terminal.markupPieces position' (t.reverse ++ before) 0 rest := by
  induction t generalizing position before with
  | nil => exact ⟨position, rfl⟩
  | cons c t ih =>
      obtain ⟨hopens, hbackslash⟩ := h
      obtain ⟨hcopens, htopens⟩ := not_or.mp (mt List.mem_cons.mpr hopens)
      obtain ⟨hcbackslash, htbackslash⟩ := not_or.mp (mt List.mem_cons.mpr hbackslash)
      obtain ⟨position', h⟩ := ih ⟨htopens, htbackslash⟩ (position + 1) (c :: before)
      refine ⟨position', ?_⟩
      rw [List.cons_append, markupPieces_cons (TagMatch.ofText?_other (Ne.symm hcbackslash) (Ne.symm hcopens) _), h]
      simp

/-- What comes before a tag is plain text. -/
theorem IsBare.markupPieces_tag {t body : Text} (h : IsBare t) (hbody : IsTagBody body) (position : Nat) (rest : Text) :
    ∃ place position', Terminal.markupPieces position [] 0 (t ++ ("[" ++ body ++ "]" ++ rest)) =
      plainPiece t.reverse ++ .tag place body :: Terminal.markupPieces position' [] 0 rest := by
  obtain ⟨place, hplain⟩ := h.markupPieces position [] ("[" ++ body ++ "]" ++ rest)
  obtain ⟨position', htag⟩ :=
    Terminal.markupPieces_tag (m := ⟨0, body⟩) hbody place (t.reverse ++ []) rest
  refine ⟨place, position', hplain.trans (htag.trans ?_)⟩
  simp [TagMatch.pieces]

variable {lead body word other : Text}

/-- A text that begins in one style. -/
theorem ofMarkup_style (hlead : IsBare lead) (hword : IsStyleWord word) (rest : Text) :
    ∃ piece shown position, MarkedText.ofMarkup (lead ++ ("[" ++ word ++ "]" ++ rest)) =
      (MarkedText.ofPieces ⟨[⟨word, none, shown⟩], []⟩ shown (markupPieces position [] 0 rest)).map
        (MarkedText.behind piece) := by
  obtain ⟨place, position, hpieces⟩ := hlead.markupPieces_tag hword.isTagBody 0 rest
  obtain ⟨piece, shown, hplain⟩ :=
    MarkedText.ofPieces_plainPiece .empty 0 lead.reverse (.tag place word :: markupPieces position [] 0 rest)
  refine ⟨piece, shown, position, ?_⟩
  rw [MarkedText.ofMarkup, hpieces, hplain, MarkedText.ofPieces_tag, hword.push]
  rfl

/-- A closing tag behind a text that begins in one style. -/
theorem ofMarkup_closed (hlead : IsBare lead) (hbody : IsBare body) (hword : IsStyleWord word)
    (hother : IsLowerWord other) (rest : Text) :
    ∃ piece start stop place position,
      MarkedText.ofMarkup (lead ++ ("[" ++ word ++ "]" ++ (body ++ ("[" ++ .scalar '/' :: other ++ "]" ++ rest)))) =
        ((Tags.push ⟨[⟨word, none, start⟩], []⟩ stop place (.scalar '/' :: other)).bind fun tags =>
          MarkedText.ofPieces tags stop (markupPieces position [] 0 rest)).map (MarkedText.behind piece) := by
  obtain ⟨first, start, position, hstyle⟩ :=
    ofMarkup_style hlead hword (body ++ ("[" ++ .scalar '/' :: other ++ "]" ++ rest))
  obtain ⟨place, position, hpieces⟩ := hbody.markupPieces_tag hother.isTagBody_close position rest
  obtain ⟨second, stop, hplain⟩ :=
    MarkedText.ofPieces_plainPiece ⟨[⟨word, none, start⟩], []⟩ start body.reverse
      (.tag place (.scalar '/' :: other) :: markupPieces position [] 0 rest)
  refine ⟨first ++ second, start, stop, place, position, ?_⟩
  rw [hstyle, hpieces, hplain, MarkedText.ofPieces_tag]
  cases (Tags.push ⟨[⟨word, none, start⟩], []⟩ stop place (.scalar '/' :: other)).bind fun tags =>
    MarkedText.ofPieces tags stop (markupPieces position [] 0 rest) with
  | error f => rfl
  | ok m => simp [Except.map, MarkedText.behind]

theorem reads_styled (hlead : IsBare lead) (hbody : IsBare body) (hword : IsStyleWord word) :
    Reads (lead ++ ("[" ++ word ++ "]" ++ (body ++ ("[" ++ .scalar '/' :: word ++ "]")))) := by
  obtain ⟨piece, start, stop, place, position, h⟩ := ofMarkup_closed hlead hbody hword hword.toIsLowerWord []
  have hpush : Tags.push ⟨[⟨word, none, start⟩], []⟩ stop place (.scalar '/' :: word) =
      .ok ⟨[], [⟨start, stop, word⟩]⟩ := by
    rw [hword.push_close hword.normal, List.find?_cons_of_pos (by simp)]
    exact hword.close start stop
  have hspans : Tags.spans ⟨[], [⟨start, stop, word⟩]⟩ stop = [⟨start, stop, word⟩] := by simp [Tags.spans]
  have hend : MarkedText.ofPieces ⟨[], [⟨start, stop, word⟩]⟩ stop (markupPieces position [] 0 []) =
      .ok ⟨[], [⟨start, stop, word⟩]⟩ := congrArg (fun spans => Except.ok (MarkedText.mk [] spans)) hspans
  rw [hpush, List.append_nil, Except.bind, hend] at h
  exact ⟨_, h, List.forall_mem_singleton.mpr hword.styleOf?⟩

/-! ## Tags that close nothing -/

/-- The first tag that closes a style closes none that is open. Before it a colour may have begun. -/
inductive ClosesUnopened : Text → Prop where
  | alone {lead name : Text} (rest : Text) : IsBare lead → IsLowerWord name →
      ClosesUnopened (lead ++ ("[" ++ .scalar '/' :: name ++ "]" ++ rest))
  | within {lead color body name : Text} (rest : Text) : IsBare lead → color ∈ printedColors → IsBare body →
      IsLowerWord name → name ≠ color →
      ClosesUnopened (lead ++ ("[" ++ color ++ "]" ++ (body ++ ("[" ++ .scalar '/' :: name ++ "]" ++ rest))))

theorem ClosesUnopened.ofMarkup {t : Text} (h : ClosesUnopened t) : ∃ f, MarkedText.ofMarkup t = .error f := by
  cases h with
  | @alone lead name rest hlead hname =>
      obtain ⟨normal, hnormal, -⟩ := hname.normalStyle
      obtain ⟨place, position, hpieces⟩ := hlead.markupPieces_tag hname.isTagBody_close 0 rest
      obtain ⟨piece, shown, hplain⟩ :=
        MarkedText.ofPieces_plainPiece .empty 0 lead.reverse
          (.tag place (.scalar '/' :: name) :: markupPieces position [] 0 rest)
      refine ⟨.unmatched (.scalar '/' :: name) place, ?_⟩
      rw [MarkedText.ofMarkup, hpieces, hplain, MarkedText.ofPieces_tag, hname.push_close hnormal]
      rfl
  | @within lead color body name rest hlead hcolor hbody hname hne =>
      obtain ⟨normal, hnormal, hcases⟩ := hname.normalStyle
      obtain ⟨piece, start, stop, place, position, h⟩ :=
        ofMarkup_closed hlead hbody (isStyleWord_color hcolor) hname rest
      have hother : color ≠ normal := by
        obtain rfl | hattribute := hcases
        · exact hne.symm
        · rintro rfl
          exact not_mem_attributeNames_of_color hcolor hattribute
      refine ⟨.unmatched (.scalar '/' :: name) place, ?_⟩
      rw [h, hname.push_close hnormal, List.find?_cons_of_neg (by simpa using hother)]
      rfl

end Terminal

end Invocation
