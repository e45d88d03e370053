import Invocation.Proofs.Terminal.Marked
import Invocation.Terminal.Console

/-!
# Laws of consoles

What is relied on of a console: texts without tags are printed, and so are texts with a part in one style and escaped
texts; a text that closes a style that is not open is not. The console of a terminal keeps these laws, however wide its
lines are.
-/

namespace Invocation

namespace Terminal

/-! ## Harmless texts -/

/-- Text without brackets, backslashes and surrogates. -/
def IsHarmless (t : Text) : Prop := IsBare t ∧ t.IsWritable

theorem isHarmless_ofString {s : String} (h : IsBare (Text.ofString s)) : IsHarmless (Text.ofString s) :=
  ⟨h, .ofString s⟩

theorem IsHarmless.append {t u : Text} (ht : IsHarmless t) (hu : IsHarmless u) : IsHarmless (t ++ u) :=
  ⟨ht.1.append hu.1, ht.2.append hu.2⟩

/-- The styles that the program prints in. -/
def printedStyles : List Text := "bold" :: printedColors

/-- Harmless text, a part of which may be in one style. -/
inductive IsBalanced : Text → Prop where
  | plain {t : Text} : IsHarmless t → IsBalanced t
  | styled {lead body word : Text} : IsHarmless lead → IsHarmless body → word ∈ printedStyles →
      IsBalanced (lead ++ ("[" ++ word ++ "]" ++ (body ++ ("[" ++ .scalar '/' :: word ++ "]"))))

end Terminal

open Terminal

namespace Console

/-! ## Laws -/

def Prints (made : Except Fault Text) : Prop := ∃ t, made = .ok t

/-- A cell of a table that is shown as it is. -/
inductive IsInert (c : Console) : Text → Prop where
  | harmless {t : Text} : IsHarmless t → IsInert c t
  | escaped {t : Text} : t.IsWritable → IsInert c (c.escape t)

/-- A console for markup whose output takes everything but surrogates that stand alone, as it does in UTF-8. -/
structure Lawful (c : Console) : Prop where
  plain {t : Text} : t.IsWritable → Prints (c.plain t)
  json {j : Json} : (jsonLines j).IsWritable → Prints (c.json j)
  balanced {t : Text} : IsBalanced t → Prints (c.markup t)
  unopened {t : Text} : ClosesUnopened t → ¬Prints (c.markup t)
  panel {title t : Text} : IsHarmless title → t.IsWritable → Prints (c.panel title (c.escape t))
  table {title : Text} {headings : List Text} {rows : List (List Text)} : IsHarmless title →
    (∀ heading ∈ headings, IsHarmless heading) → (∀ row ∈ rows, ∀ cell ∈ row, c.IsInert cell) →
      Prints (c.table title headings rows)
  unopenedCell {title : Text} {headings : List Text} {rows : List (List Text)} {row : List Text} {cell : Text} :
    row ∈ rows → row.length = headings.length → cell ∈ row → ClosesUnopened cell →
      ¬Prints (c.table title headings rows)

end Console

namespace Terminal

open Console

/-! ## Escaped texts -/

theorem isWritable_escapeTags {t : Text} (h : t.IsWritable) : (escapeTags 0 t).IsWritable := by
  induction hlength : t.length using Nat.strongRecOn generalizing t with
  | _ length ih =>
      subst hlength
      cases hmatch : TagMatch.ofText? t with
      | some m =>
          obtain ⟨rest, htext, hshorter, hescape⟩ := escapeTags_tag hmatch
          have hparts := h
          rw [htext, Text.isWritable_append_iff, Text.isWritable_append_iff] at hparts
          rw [hescape]
          exact .append (.fill _ _) (hparts.2.1.append (ih _ hshorter hparts.2.2 rfl))
      | none =>
          cases t with
          | nil => exact .nil
          | cons c t =>
              obtain ⟨hc, ht⟩ := List.forall_mem_cons.mp h
              rw [escapeTags_cons hmatch]
              exact .cons hc (ih t.length (Nat.lt_succ_self _) ht rfl)

theorem isWritable_escapeMarkup {t : Text} (h : t.IsWritable) : (escapeMarkup t).IsWritable := by
  obtain ⟨n, hescape⟩ := escapeMarkup_eq t
  rw [hescape]
  exact (isWritable_escapeTags h).append (.fill n _)

/-! ## Balanced texts -/

theorem isStyleWord_of_mem {word : Text} (h : word ∈ printedStyles) : IsStyleWord word := by
  obtain rfl | h := List.mem_cons.mp h
  · exact isStyleWord_bold
  · exact isStyleWord_color h

theorem IsBalanced.isSound {t : Text} (h : IsBalanced t) :
    SucceedsWith (MarkedText.ofMarkup t) MarkedText.IsSound := by
  cases h with
  | plain h => exact (reads_of_not_mem h.1.1).isSound h.2
  | @styled lead body word hlead hbody hword =>
      have hstyle := isStyleWord_of_mem hword
      refine (reads_styled hlead.1 hbody.1 hstyle).isSound (hlead.2.append (.append ?_ (hbody.2.append ?_)))
      · exact (Text.IsWritable.append (.ofString "[") hstyle.isWritable).append (.ofString "]")
      · exact (Text.IsWritable.append (.ofString "[") (.cons rfl hstyle.isWritable)).append (.ofString "]")

/-! ## Outcomes -/

theorem prints_written_iff {t : Text} : Prints (written t) ↔ t.IsWritable := by
  rw [← Text.hasSurrogate_eq_false_iff, written]
  cases t.hasSurrogate with
  | false => exact iff_of_true ⟨t, rfl⟩ rfl
  | true => exact iff_of_false (fun ⟨_, h⟩ => nomatch h) (by simp)

theorem prints_writtenIfRead {made : Except MarkupFault Text} (h : SucceedsWith made Text.IsWritable) :
    Prints (writtenIfRead made) := by
  obtain ⟨t, rfl, ht⟩ := h
  exact prints_written_iff.mpr ht

theorem not_prints_writtenIfRead {made : Except MarkupFault Text} (h : ∃ f, made = .error f) :
    ¬Prints (writtenIfRead made) := by
  obtain ⟨f, rfl⟩ := h
  exact fun ⟨_, h⟩ => nomatch h

theorem isWritable_plainLine {t : Text} (h : t.IsWritable) : (onTerminal (withEmoji t) ++ "\n").IsWritable :=
  Text.isWritable_line.mpr (isWritable_onTerminal (isWritable_replaceCodes 0 h))

variable (columns : Nat)

theorem markupLines_of_isSound {t : Text} (h : SucceedsWith (MarkedText.ofMarkup t) MarkedText.IsSound) :
    SucceedsWith (markupLines columns t) Text.IsWritable := by
  refine h.bind fun m hm => (hm.drawn .fold columns).bind fun lines hlines => succeedsWith_pure ?_
  exact Text.isWritable_line.mpr (.joinWith (.ofString "\n") hlines)

/-! ## Panels -/

theorem isWritable_titleBorder {title : Text} (h : title.IsWritable) : (titleBorder columns title).IsWritable := by
  have hshown := isWritable_cut .fold (columns - 4) ((Text.IsWritable.append (.ofString " ") h).append (.ofString " "))
  rw [titleBorder]
  split
  · exact .append (.append (.ofString "╭") (.fill _ _)) (.ofString "╮\n")
  · exact .append (.append (.append (.append (.ofString "╭─") (.fill _ _)) hshown) (.fill _ _)) (.ofString "─╮\n")

theorem isWritable_panelRow {line : Text} (h : line.IsWritable) : (panelRow columns line).IsWritable :=
  .append (.append (.ofString "│ ") (h.fitted _)) (.ofString " │\n")

theorem panel_of_isSound {title content : Text} (htitle : title.IsWritable)
    (h : SucceedsWith (MarkedText.ofMarkup content) MarkedText.IsSound) :
    SucceedsWith (panel columns title content) Text.IsWritable := by
  refine h.bind fun m hm => (hm.drawn .fold (columns - 4)).bind fun lines hlines => succeedsWith_pure ?_
  have hrows : Text.IsWritable (lines.flatMap (panelRow columns)) :=
    .flatMap fun line hline => isWritable_panelRow columns (hlines line hline)
  exact .append (.append (.append ((isWritable_titleBorder columns htitle).append hrows) (.ofString "╰")) (.fill _ _))
    (.ofString "╯\n")

/-! ## Tables -/

theorem Rule.isWritable_draw (r : Rule) {cells : List Text} (h : ∀ cell ∈ cells, cell.IsWritable) :
    (r.draw cells).IsWritable :=
  .append (.append (.cons rfl .nil) (.joinWith (.cons rfl .nil) h)) (.cons rfl (.cons rfl .nil))

theorem Rule.isWritable_line (r : Rule) (widths : List Nat) : (r.line widths).IsWritable := by
  refine r.isWritable_draw fun cell hcell => ?_
  obtain ⟨w, -, rfl⟩ := List.mem_map.mp hcell
  exact .fill _ _

theorem isWritable_rowLine (bar : Char) (widths : List Nat) {lines : List Text} (h : ∀ line ∈ lines, line.IsWritable) :
    (rowLine bar widths lines).IsWritable := by
  refine Rule.isWritable_draw _ fun cell hcell => ?_
  rw [← List.map_uncurry_zip_eq_zipWith] at hcell
  obtain ⟨⟨w, line⟩, hmem, rfl⟩ := List.mem_map.mp hcell
  have hline := h line (List.of_mem_zip hmem).2
  exact Text.IsWritable.fitted (.append (.append (.ofString " ") (hline.fitted _)) (.ofString " ")) _

theorem getD_of_forall_mem {α : Type} {P : α → Prop} {xs : List α} {default : α} (h : ∀ x ∈ xs, P x)
    (hdefault : P default) (n : Nat) : P (xs.getD n default) := by
  rw [List.getD_eq_getElem?_getD]
  cases hn : xs[n]? with
  | none => exact hdefault
  | some x => exact h x (List.mem_of_getElem? hn)

theorem isWritable_rowText (bar : Char) (widths : List Nat) {cells : List (List Text)}
    (h : ∀ lines ∈ cells, ∀ line ∈ lines, line.IsWritable) : (rowText bar widths cells).IsWritable := by
  refine .flatMap fun n _ => isWritable_rowLine bar widths fun line hline => ?_
  obtain ⟨lines, hlines, rfl⟩ := List.mem_map.mp hline
  exact getD_of_forall_mem (h lines hlines) .nil n

theorem isWritable_titleLines (width : Nat) {title : Text} (h : title.IsWritable) :
    (titleLines width title).IsWritable := by
  refine .flatMap fun line hline => Text.isWritable_line.mpr ?_
  have hsound := (MarkedText.IsSound.plain h).wrapped .fold width line hline
  exact Text.IsWritable.fitted (.append (.fill _ _) (.dropTrailing _ hsound.writable)) width

theorem drawnRow_of_isSound (bar : Char) (widths : List Nat) {cells : List (List MarkedText)}
    (h : ∀ column ∈ cells, ∀ cell ∈ column, cell.IsSound) (number : Nat) :
    SucceedsWith (drawnRow bar widths cells number) Text.IsWritable := by
  have hdrawn : ∀ p ∈ widths.zip cells, SucceedsWith ((p.2.getD number .empty).drawn .ellipsis (p.1 - 2)) fun lines =>
      ∀ line ∈ lines, line.IsWritable :=
    fun p hp => (getD_of_forall_mem (h p.2 (List.of_mem_zip hp).2) .empty number).drawn .ellipsis (p.1 - 2)
  exact (succeedsWith_mapM hdrawn).bind fun lines hlines => succeedsWith_pure (isWritable_rowText bar widths hlines)

variable {headings : List Text} {rows : List (List Text)}

theorem readColumns_of_isSound
    (h : ∀ row ∈ headings :: rows, ∀ cell ∈ row, SucceedsWith (MarkedText.ofMarkup cell) MarkedText.IsSound) :
    SucceedsWith (readColumns headings rows) fun cells => ∀ column ∈ cells, ∀ cell ∈ column, cell.IsSound := by
  have hempty : SucceedsWith (MarkedText.ofMarkup []) MarkedText.IsSound :=
    (reads_of_not_mem List.not_mem_nil).isSound .nil
  exact succeedsWith_mapM fun n _ => succeedsWith_mapM fun row hrow => getD_of_forall_mem (h row hrow) hempty n

theorem table_of_isSound {title : Text} (htitle : title.IsWritable)
    (h : ∀ row ∈ headings :: rows, ∀ cell ∈ row, SucceedsWith (MarkedText.ofMarkup cell) MarkedText.IsSound) :
    SucceedsWith (table columns title headings rows) Text.IsWritable := by
  refine (readColumns_of_isSound h).bind fun cells hcells => ?_
  refine (drawnRow_of_isSound '┃' _ hcells 0).bind fun top htop => ?_
  refine (succeedsWith_mapM fun n _ => drawnRow_of_isSound '│' _ hcells (n + 1)).bind fun body hbody =>
    succeedsWith_pure ?_
  have hflat : Text.IsWritable body.flatten := by
    intro c hc
    obtain ⟨row, hrow, hc⟩ := List.mem_flatten.mp hc
    exact hbody row hrow c hc
  exact .append (.append (.append (.append (.append (isWritable_titleLines _ htitle) (topRule.isWritable_line _)) htop)
    (headingRule.isWritable_line _)) hflat) (bottomRule.isWritable_line _)

/-- A cell that cannot be read keeps its table from being drawn. -/
theorem table_eq_error {title : Text} {row : List Text} {cell : Text} (hrow : row ∈ rows)
    (hlength : row.length = headings.length) (hcell : cell ∈ row)
    (h : ∃ f, MarkedText.ofMarkup cell = .error f) : ∃ f, table columns title headings rows = .error f := by
  obtain ⟨n, hn, rfl⟩ := List.getElem_of_mem hcell
  have hread : ∃ f, readColumns headings rows = .error f := by
    refine exists_mapM_eq_error (List.mem_range.mpr (hlength ▸ hn)) ?_
    refine exists_mapM_eq_error (List.mem_cons_of_mem _ hrow) ?_
    rwa [List.getD_eq_getElem?_getD, List.getElem?_eq_getElem hn]
  obtain ⟨f, hf⟩ := hread
  exact ⟨f, by rw [table, hf]; rfl⟩

/-! ## The console of a terminal -/

theorem isSound_escapeMarkup {t : Text} (h : t.IsWritable) :
    SucceedsWith (MarkedText.ofMarkup (escapeMarkup t)) MarkedText.IsSound :=
  (reads_escapeMarkup t).isSound (isWritable_escapeMarkup h)

theorem console_lawful : (console columns).Lawful where
  plain h := prints_written_iff.mpr (isWritable_plainLine h)
  json h := prints_written_iff.mpr h
  balanced h := prints_writtenIfRead (markupLines_of_isSound columns h.isSound)
  unopened h := by
    obtain ⟨f, hf⟩ := h.ofMarkup
    exact not_prints_writtenIfRead ⟨f, by rw [markupLines, hf]; rfl⟩
  panel htitle h := prints_writtenIfRead (panel_of_isSound columns htitle.2 (isSound_escapeMarkup h))
  table htitle hheadings hrows := by
    refine prints_writtenIfRead (table_of_isSound columns htitle.2 (List.forall_mem_cons.mpr ⟨?_, ?_⟩))
    · exact fun heading hheading => (IsBalanced.plain (hheadings heading hheading)).isSound
    · intro row hrow cell hcell
      cases hrows row hrow cell hcell with
      | harmless h => exact (IsBalanced.plain h).isSound
      | escaped h => exact isSound_escapeMarkup h
  unopenedCell hrow hlength hcell h := not_prints_writtenIfRead (table_eq_error columns hrow hlength hcell h.ofMarkup)

end Terminal

end Invocation
