import Mathlib.Data.List.Forall2
import Invocation.Proofs.OrderedMap
import Invocation.Proofs.Properties.NaturalLines
import Invocation.Proofs.Properties.Spelling
import Invocation.Proofs.Text.Basic
import Invocation.Properties.Parse

/-!
# Written property files

Entries may be written one on a line, with blanks around the key and the separator, and every character spelled in any
way. However they are written, the text is read as the entries that it was written for.
-/

namespace Invocation

namespace Properties

/-! ## Lines -/

/-- The parts of a line on which an entry is written. -/
structure Layout where
  indent : Text
  key : Text
  before : Text
  separator : Char
  after : Text
  value : Text
  lineBreak : Text

namespace Layout

/-- What follows the indent. -/
def body (l : Layout) : Text := l.key ++ (l.before ++ .scalar l.separator :: (l.after ++ l.value))

def content (l : Layout) : Text := l.indent ++ l.body

def text (l : Layout) : Text := l.content ++ l.lineBreak

/-- The parts make a line for the entry: the key does not look like a comment, and the value does not begin with a
blank that could be taken for one before it. -/
structure Writes (l : Layout) (entry : String × String) : Prop where
  indent : ∀ c ∈ l.indent, isBlank c
  key : SpellsAll BareInKey entry.1.toList l.key
  key_head : ∀ c ∈ l.key.head?, c ≠ .scalar '#' ∧ c ≠ .scalar '!'
  before : ∀ c ∈ l.before, isBlank c
  separator : l.separator = '=' ∨ l.separator = ':'
  after : ∀ c ∈ l.after, isBlank c
  value : SpellsAll BareInValue entry.2.toList l.value
  value_head : ∀ c ∈ l.value.head?, ¬isBlank c
  lineBreak : l.lineBreak ∈ lineBreaks

end Layout

/-- A natural line that is a logical line of its own, with the entry on it. -/
structure HoldsEntry (line : Text) (entry : Text × Text) : Prop where
  stays : isSkipped (withoutIndent line) = false
  ends : continues (withoutIndent line) = false
  reads : ∀ start, (LogicalLine.mk start (withoutIndent line) true).entry = .ok entry

theorem mapM_entry_of_holdsEntry {lines : List Text} {entries : List (Text × Text)}
    (h : List.Forall₂ HoldsEntry lines entries) (number : Nat) :
    (linesFrom number none lines).mapM LogicalLine.entry = .ok entries := by
  induction h generalizing number with
  | nil => rfl
  | @cons line entry lines entries h _ ih =>
      have hline : linesFrom number none (line :: lines) =
          ⟨number, withoutIndent line, true⟩ :: linesFrom (number + 1) none lines := by
        simp [linesFrom, h.stays, h.ends]
      rw [hline, List.mapM_cons, h.reads, ih]
      rfl

theorem isBlank_iff {c : CodePoint} : isBlank c ↔ c = .scalar ' ' ∨ c = .scalar '\t' ∨ c = .scalar '\x0c' := by
  simp [isBlank, CodePoint.isOneOf]

theorem dropWhile_isBlank_of_head? {t : Text} (h : ∀ c ∈ t.head?, ¬isBlank c) : t.dropWhile isBlank = t := by
  cases t with
  | nil => rfl
  | cons c t => exact List.dropWhile_cons_of_neg (h c rfl)

theorem isSkipped_of_isBlank {c : CodePoint} (h : isBlank c) (t : Text) : isSkipped (c :: t) = false := by
  rcases isBlank_iff.mp h with rfl | rfl | rfl <;> rfl

theorem Paired.of_blanks {t : Text} (h : ∀ c ∈ t, isBlank c) : Paired BareInValue t := by
  induction t with
  | nil => exact .nil
  | cons c t ih =>
      obtain ⟨hc, ht⟩ := List.forall_mem_cons.mp h
      rcases isBlank_iff.mp hc with rfl | rfl | rfl <;> exact .bare (by decide) (ih ht)

/-- The head of a spelled key neither is a blank nor ends the key. -/
theorem Paired.head_stays {c : CodePoint} {t : Text} (h : Paired BareInKey (c :: t)) : ¬isBlank c := by
  cases h with
  | bare h _ => simp_all [BareInKey, isBlank, CodePoint.isOneOf]
  | escape _ _ => decide

namespace Layout.Writes

variable {l : Layout} {entry : String × String}

theorem paired_key (h : l.Writes entry) : Paired BareInKey l.key := .of_spellsAll (fun _ => id) h.key

theorem paired_body (h : l.Writes entry) : Paired BareInValue l.body := by
  have hseparator : BareInValue l.separator := by
    rcases h.separator with hs | hs <;> rw [hs] <;> decide
  have hvalue : Paired BareInValue l.value := .of_spellsAll (fun _ => BareInKey.inValue) h.value
  have hkey : Paired BareInValue l.key := h.paired_key.mono fun _ => BareInKey.inValue
  exact hkey.append ((Paired.of_blanks h.before).append (.bare hseparator ((Paired.of_blanks h.after).append hvalue)))

theorem paired_content (h : l.Writes entry) : Paired BareInValue l.content :=
  (Paired.of_blanks h.indent).append h.paired_body

theorem separator_stays (h : l.Writes entry) :
    isSeparator (.scalar l.separator) ∧ ¬isBlank (.scalar l.separator) := by
  rcases h.separator with hs | hs <;> rw [hs] <;> decide

/-- The blanks behind an empty key can be taken for the indent. -/
theorem exists_body (h : l.Writes entry) : ∃ l' : Layout, l'.Writes entry ∧ withoutIndent l.content = l'.body := by
  have hdrop : ∀ u : Text, withoutIndent (l.indent ++ u) = withoutIndent u := fun u =>
    List.dropWhile_append_of_pos h.indent
  cases hkey : l.key with
  | nil =>
      refine ⟨{ l with before := [] }, { h with before := by simp }, ?_⟩
      rw [content, hdrop, body, body, hkey, List.nil_append, List.nil_append, List.nil_append, withoutIndent,
        List.dropWhile_append_of_pos h.before, List.dropWhile_cons_of_neg h.separator_stays.2]
  | cons c k =>
      have hstays : ¬isBlank c := Paired.head_stays (hkey ▸ h.paired_key)
      refine ⟨l, h, ?_⟩
      rw [content, hdrop, body, hkey, List.cons_append, withoutIndent, List.dropWhile_cons_of_neg hstays]

theorem isSkipped_body (h : l.Writes entry) : isSkipped l.body = false := by
  have hhead := h.key_head
  cases hkey : l.key with
  | nil =>
      cases hbefore : l.before with
      | nil =>
          rw [body, hkey, hbefore]
          rcases h.separator with hs | hs <;> rw [hs] <;> rfl
      | cons c r =>
          rw [body, hkey, hbefore]
          exact isSkipped_of_isBlank (h.before c (by simp [hbefore])) _
  | cons c k =>
      rw [body, hkey]
      simpa [isSkipped, CodePoint.isOneOf, hkey] using hhead

theorem continues_body (h : l.Writes entry) : continues l.body = false := by
  have hbody := h.paired_body.continues_append (u := []) rfl
  rwa [List.nil_append] at hbody

theorem splitKey_body (h : l.Writes entry) :
    splitKey l.body = (l.key, l.before ++ .scalar l.separator :: (l.after ++ l.value)) := by
  have hrest : splitKey (l.before ++ .scalar l.separator :: (l.after ++ l.value)) =
      ([], l.before ++ .scalar l.separator :: (l.after ++ l.value)) := by
    cases hbefore : l.before with
    | nil => exact splitKey_of_ends (by simp [h.separator_stays.1]) _
    | cons c r => exact splitKey_of_ends (by simp [h.before c (by simp [hbefore])]) _
  rw [body, h.paired_key.splitKey_append, hrest, List.append_nil]

theorem afterSeparator_rest (h : l.Writes entry) :
    afterSeparator (l.before ++ .scalar l.separator :: (l.after ++ l.value)) = l.value := by
  obtain ⟨hseparator, hstays⟩ := h.separator_stays
  rw [afterSeparator, List.dropWhile_append_of_pos h.before, List.dropWhile_cons_of_neg hstays]
  simp only [hseparator, if_true]
  rw [List.dropWhile_append_of_pos h.after, dropWhile_isBlank_of_head? h.value_head]

theorem entry_eq (h : l.Writes entry) (start : Nat) :
    (LogicalLine.mk start l.body true).entry = .ok (Text.ofString entry.1, Text.ofString entry.2) := by
  have hkey := h.key.meaning? fun _ => BareInKey.inValue
  have hvalue := h.value.meaning? fun _ => id
  simp only [LogicalLine.entry, h.splitKey_body, h.afterSeparator_rest, hkey, hvalue]
  rfl

theorem holdsEntry (h : l.Writes entry) : HoldsEntry l.content (Text.ofString entry.1, Text.ofString entry.2) := by
  obtain ⟨l', h', hbody⟩ := h.exists_body
  constructor <;> rw [hbody]
  · exact h'.isSkipped_body
  · exact h'.continues_body
  · exact h'.entry_eq

end Layout.Writes

/-! ## Texts -/

variable {ls : List Layout} {entries : List (String × String)}

/-- No line begins with a line feed that a carriage return before it could take along. -/
theorem head?_flatMap_text (h : List.Forall₂ Layout.Writes ls entries) :
    (ls.flatMap Layout.text).head? ≠ some (.scalar '\n') := by
  cases h with
  | nil => simp
  | @cons l entry ls entries h _ =>
      have hne : l.content ≠ [] := by simp [Layout.content, Layout.body]
      intro hhead
      rw [List.flatMap_cons, Layout.text, List.append_assoc, List.head?_append_of_ne_nil _ hne] at hhead
      exact (h.paired_content.ne_lineBreak _ (List.mem_of_head? hhead)).2 rfl

theorem naturalLines_flatMap_text (h : List.Forall₂ Layout.Writes ls entries) :
    naturalLines (ls.flatMap Layout.text) = ls.map Layout.content := by
  induction h with
  | nil => rfl
  | @cons l entry ls entries h hrest ih =>
      rw [List.flatMap_cons, Layout.text, naturalLines_append h.paired_content.ne_lineBreak
        ⟨h.lineBreak, fun _ => head?_flatMap_text hrest⟩, ih, List.map_cons]

theorem mapM_entry_linesFrom (h : List.Forall₂ Layout.Writes ls entries) (number : Nat) :
    (linesFrom number none (ls.map Layout.content)).mapM LogicalLine.entry =
      .ok (entries.map fun e => (Text.ofString e.1, Text.ofString e.2)) := by
  refine mapM_entry_of_holdsEntry ?_ number
  rw [List.forall₂_map_left_iff, List.forall₂_map_right_iff]
  exact h.imp fun _ _ => Layout.Writes.holdsEntry

/-- A text that is written line by line for entries with different keys, in whatever spelling, is read as the entries in
their order. -/
theorem parse_written (h : List.Forall₂ Layout.Writes ls entries) (hkeys : (entries.map Prod.fst).Nodup) :
    (parse (ls.flatMap Layout.text)).map OrderedMap.toList =
      .ok (entries.map fun e => (Text.ofString e.1, Text.ofString e.2)) := by
  have hnodup : ((entries.map fun e => (Text.ofString e.1, Text.ofString e.2)).map Prod.fst).Nodup := by
    have hmap : ((entries.map Prod.fst).map Text.ofString).Nodup :=
      List.Pairwise.map Text.ofString (fun _ _ hne heq => hne (Text.ofString_inj.mp heq)) hkeys
    rwa [List.map_map] at hmap ⊢
  rw [parse, Properties.entries, logicalLines, naturalLines_flatMap_text h, mapM_entry_linesFrom h]
  exact congrArg Except.ok (OrderedMap.toList_ofList hnodup)

/-- A smiley by its two units and a line feed, an entry of nothing, and a key that looks like a comment. -/
def escapedLines : List Layout :=
  [⟨" ", "k", "\t", '=', " ", "\\uD83d\\uDe00\\n", "\r\n"⟩,
    ⟨"", "", "", ':', "", "", "\r"⟩,
    ⟨"\x0c", "\\#", "", '=', "", "=", "\n"⟩]

theorem writes_escapedLines :
    List.Forall₂ Layout.Writes escapedLines [("k", "😀\n"), ("", ""), ("#", "=")] := by
  have hhigh : Digits (CodePoint.highUnit '😀') "D83d" := ⟨by decide, by decide, by decide, by decide⟩
  have hlow : Digits (CodePoint.lowUnit '😀') "De00" := ⟨by decide, by decide, by decide, by decide⟩
  refine .cons ⟨by decide, ?_, by decide, by decide, by decide, by decide, ?_, by decide, by decide⟩
    (.cons ⟨by decide, ?_, by decide, by decide, by decide, by decide, ?_, by decide, by decide⟩
    (.cons ⟨by decide, ?_, by decide, by decide, by decide, by decide, ?_, by decide, by decide⟩ .nil))
  · exact .cons (.bare (by decide)) .nil
  · exact .cons (.pair (by decide) hhigh hlow) (.cons (.letter (by decide)) .nil)
  · exact .nil
  · exact .nil
  · exact .cons (.backslash (by decide)) .nil
  · exact .cons (.bare (by decide)) .nil

theorem parse_written_escapedLines :
    (parse " k\t= \\uD83d\\uDe00\\n\r\n:\r\x0c\\#==\n").map OrderedMap.toList =
      .ok [("k", "😀\n"), ("", ""), ("#", "=")] :=
  parse_written writes_escapedLines (by decide)

end Properties

end Invocation
