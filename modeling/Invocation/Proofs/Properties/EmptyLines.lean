import Invocation.Argument.Step
import Invocation.Proofs.Properties.Concatenated

/-!
# Empty lines

Blank natural lines are skipped where a logical line could begin, but a mark of continuation on a line of its own begins
a logical line all the same. If a blank line follows, the logical line is empty, and defines an empty key.
-/

namespace Invocation

namespace Properties

/-! ## Marks of continuation -/

/-- Nothing stands on the line but a mark of continuation. -/
def BareMark (line : Text) : Prop := withoutIndent line = "\\"

namespace BareMark

variable {line : Text} (h : BareMark line)
include h

theorem continues : continues line = true := by
  rw [← continues_withoutIndent, h]
  rfl

theorem isSkipped : isSkipped (withoutIndent line) = false := by
  rw [h]
  rfl

theorem dropLast : (withoutIndent line).dropLast = [] := by
  rw [h]
  rfl

end BareMark

theorem continues_of_blank {line : Text} (h : withoutIndent line = []) : continues line = false := by
  rw [← continues_withoutIndent, h]
  rfl

theorem bareMark_of_dropLast {line : Text} (hcontinues : continues line = true)
    (h : (withoutIndent line).dropLast = []) : BareMark line := by
  rw [← continues_withoutIndent] at hcontinues
  match hline : withoutIndent line with
  | [] =>
      rw [hline] at hcontinues
      cases hcontinues
  | [c] =>
      rw [hline, ← List.nil_append [c], continues_concat, Bool.and_eq_true, decide_eq_true_eq] at hcontinues
      rw [BareMark, hline, hcontinues.1]
      rfl
  | c :: d :: r =>
      rw [hline] at h
      cases h

theorem joined_eq_nil_iff {lines : List Text} :
    joined lines = [] ↔ ∀ line ∈ lines, (withoutIndent line).dropLast = [] :=
  List.flatMap_eq_nil_iff

/-! ## Empty logical lines -/

/-- Bare marks of continuation stand before a blank line, where a logical line can begin: the lines before leave
nothing to be continued. -/
inductive HasEmptyLine (number : Nat) : List Text → Prop where
  | intro {before marks after : List Text} {blank : Text} {ls : List LogicalLine} (hbefore : Joins number before ls)
      (hcomplete : ∀ l ∈ ls, l.complete = true) (hne : marks ≠ []) (hmarks : ∀ mark ∈ marks, BareMark mark)
      (hblank : withoutIndent blank = []) : HasEmptyLine number (before ++ (marks ++ blank :: after))

namespace HasEmptyLine

variable {number : Nat} {lines : List Text} {ls : List LogicalLine}

theorem of_joins (h : Joins number lines ls) (hempty : ∃ l ∈ ls, l.complete = true ∧ l.text = []) :
    HasEmptyLine number lines := by
  induction h with
  | nil => simp at hempty
  | @skipped number line lines ls hskipped _ ih =>
      obtain @⟨before, marks, after, blank, ls', hbefore, hcomplete, hne, hmarks, hblank⟩ := ih hempty
      rw [← List.cons_append]
      exact .intro (.skipped hskipped hbefore) hcomplete hne hmarks hblank
  | @complete number continued last lines ls hbegin hcontinued hlast _ ih =>
      obtain ⟨l, hl, hcompleted, htext⟩ := hempty
      rcases List.mem_cons.mp hl with rfl | hl
      · obtain ⟨hjoined, hblank⟩ := List.append_eq_nil_iff.mp htext
        have hmarks : ∀ mark ∈ continued, BareMark mark := fun mark hmark =>
          bareMark_of_dropLast (hcontinued mark hmark) (joined_eq_nil_iff.mp hjoined mark hmark)
        have hne : continued ≠ [] := by
          -- no logical line begins with a blank one
          rintro rfl
          have hskipped := hbegin last rfl
          rw [hblank] at hskipped
          cases hskipped
        exact .intro .nil (by simp) hne hmarks hblank
      · obtain @⟨before, marks, after, blank, ls', hbefore, hcomplete, hne, hmarks, hblank⟩ :=
          ih ⟨l, hl, hcompleted, htext⟩
        rw [← List.cons_append, ← List.append_assoc]
        exact .intro (.complete hbegin hcontinued hlast hbefore) (List.forall_mem_cons.mpr ⟨rfl, hcomplete⟩) hne hmarks
          hblank
  | unterminated _ _ _ => simp at hempty

theorem exists_linesFrom (h : HasEmptyLine number lines) :
    ∃ l ∈ linesFrom number none lines, l.complete = true ∧ l.text = [] := by
  obtain @⟨before, marks, after, blank, ls, hbefore, hcomplete, hne, hmarks, hblank⟩ := h
  have hbegin : CanBegin (marks ++ [blank]) := by
    cases marks with
    | nil => exact absurd rfl hne
    | cons mark marks => simpa [CanBegin] using (hmarks mark (by simp)).isSkipped
  have htext : joined marks ++ withoutIndent blank = [] := by
    rw [hblank, List.append_nil]
    exact joined_eq_nil_iff.mpr fun mark hmark => (hmarks mark hmark).dropLast
  have hjoins := hbefore.append hcomplete (.complete hbegin (fun mark hmark => (hmarks mark hmark).continues)
    (continues_of_blank hblank) (joins_linesFrom _ after))
  rw [← hjoins.eq_linesFrom]
  exact ⟨_, List.mem_append_right _ List.mem_cons_self, rfl, htext⟩

/-- A logical line that is complete and empty comes of bare marks before a blank line, and of nothing else. -/
theorem exists_iff {t : Text} :
    (∃ l ∈ logicalLines t, l.complete = true ∧ l.text = []) ↔ HasEmptyLine 1 (naturalLines t) :=
  ⟨of_joins (joins_linesFrom 1 (naturalLines t)), exists_linesFrom⟩

end HasEmptyLine

/-! ## Lines that say nothing -/

/-- A comment, where a logical line could begin. -/
def IsComment (line : Text) : Prop := ∃ c ∈ (withoutIndent line).head?, c = .scalar '#' ∨ c = .scalar '!'

/-- The lines hold blanks, comments and marks of continuation only. The flags say whether something is to be continued
before them and behind them; what looks like a comment is none where a line is continued. -/
inductive Idle : Bool → Bool → List Text → Prop where
  | nil {pending : Bool} : Idle pending pending []
  | blank {pending last : Bool} {line : Text} {lines : List Text} (hblank : withoutIndent line = [])
      (hrest : Idle false last lines) : Idle pending last (line :: lines)
  | comment {last : Bool} {line : Text} {lines : List Text} (hcomment : IsComment line)
      (hrest : Idle false last lines) : Idle false last (line :: lines)
  | mark {pending last : Bool} {line : Text} {lines : List Text} (hmark : BareMark line)
      (hrest : Idle true last lines) : Idle pending last (line :: lines)

theorem isSkipped_of_isComment {line : Text} (h : IsComment line) : isSkipped (withoutIndent line) = true := by
  obtain ⟨c, hc, hcomment⟩ := h
  obtain ⟨r, hline⟩ := List.head?_eq_some_iff.mp hc
  rw [hline]
  rcases hcomment with rfl | rfl <;> rfl

namespace Idle

variable {pending last : Bool} {lines : List Text}

/-- The logical lines are empty, and all are complete if and only if nothing is to be continued behind them. What is
opened before them is empty as well, and known by its start alone. -/
theorem linesFrom_empty (h : Idle pending last lines) (number : Nat) (opened : Option Nat)
    (hopened : opened.isSome = pending) :
    (∀ l ∈ linesFrom number (opened.map fun start => (start, [])) lines, l.text = []) ∧
      ((∀ l ∈ linesFrom number (opened.map fun start => (start, [])) lines, l.complete = true) ↔ last = false) := by
  induction h generalizing number opened with
  | @nil pending =>
      cases opened <;> cases hopened <;> simp [linesFrom]
  | @blank pending last line lines hblank _ ih =>
      have hrest := ih (number + 1) none rfl
      cases opened with
      | none =>
          have hskipped : isSkipped (withoutIndent line) = true := by rw [hblank]; rfl
          rwa [Option.map_none, linesFrom_skipped hskipped]
      | some start =>
          rw [Option.map_some, linesFrom_last (continues_of_blank hblank), hblank]
          simpa using hrest
  | comment hcomment _ ih =>
      have hrest := ih (number + 1) none rfl
      cases opened with
      | none => rwa [Option.map_none, linesFrom_skipped (isSkipped_of_isComment hcomment)]
      | some start => cases hopened
  | @mark pending last line lines hmark _ ih =>
      cases opened with
      | none =>
          rw [Option.map_none, linesFrom_begin hmark.isSkipped, linesFrom_next hmark.continues, hmark.dropLast]
          exact ih (number + 1) (some number) rfl
      | some start =>
          rw [Option.map_some, linesFrom_next hmark.continues, hmark.dropLast]
          exact ih (number + 1) (some start) rfl

end Idle

theorem entry_of_empty {l : LogicalLine} (hcomplete : l.complete = true) (htext : l.text = []) :
    l.entry = .ok ([], []) := by
  simp [LogicalLine.entry, hcomplete, htext, splitKey, afterSeparator, meaning?, unescape]

/-- An empty line has an entry if and only if it is complete. -/
theorem exists_entry_iff {l : LogicalLine} (htext : l.text = []) :
    (∃ entry, l.entry = .ok entry) ↔ l.complete = true := by
  cases hcomplete : l.complete with
  | false => simp [LogicalLine.entry, hcomplete]
  | true => simp [entry_of_empty hcomplete htext]

theorem mapM_entry_of_empty {ls : List LogicalLine} (hcomplete : ∀ l ∈ ls, l.complete = true)
    (htext : ∀ l ∈ ls, l.text = []) : ls.mapM LogicalLine.entry = .ok (List.replicate ls.length ([], [])) := by
  induction ls with
  | nil => rfl
  | cons l ls ih =>
      obtain ⟨hl, hcomplete⟩ := List.forall_mem_cons.mp hcomplete
      obtain ⟨hl', htext⟩ := List.forall_mem_cons.mp htext
      rw [List.mapM_cons, entry_of_empty hl hl', ih hcomplete htext]
      rfl

/-- The map that has the empty text for the empty text. -/
def emptyEntry : OrderedMap Text Text := .ofList [([], [])]

theorem ofList_replicate_empty {n : Nat} (h : n ≠ 0) : OrderedMap.ofList (List.replicate n ([], [])) = emptyEntry := by
  induction n with
  | zero => exact absurd rfl h
  | succ n ih =>
      cases n with
      | zero => rfl
      | succ n =>
          rw [List.replicate_succ', OrderedMap.ofList_concat, ih (Nat.succ_ne_zero n)]
          rfl

/-! ## Texts that say nothing -/

section Texts

variable {t : Text}

theorem Idle.parse_of_pending (h : Idle false true (naturalLines t)) :
    ∃ number, parse t = .error ⟨.unterminated, number⟩ := by
  obtain ⟨htext, hcomplete⟩ := h.linesFrom_empty 1 none rfl
  have hflawed : ∃ l ∈ logicalLines t, l.IsFlawed := by
    by_contra hnone
    refine absurd (hcomplete.mp fun l hl => ?_) Bool.true_eq_false.mp
    by_contra hincomplete
    exact hnone ⟨l, hl, .inl (Bool.eq_false_iff.mpr hincomplete)⟩
  obtain ⟨e, he⟩ := malformed_iff.mp (malformed_iff_exists_isFlawed.mpr hflawed)
  obtain ⟨l, hl, herror⟩ := List.exists_of_findSome?_eq_some (parse_eq_error_iff.mp he)
  cases hl' : l.complete with
  | true => simp [LogicalLine.error?, entry_of_empty hl' (htext l hl)] at herror
  | false =>
      rw [LogicalLine.error?_of_incomplete hl', Option.some_inj] at herror
      exact ⟨l.start, herror ▸ he⟩

theorem Idle.parse_of_not_pending (h : Idle false false (naturalLines t)) :
    (HasEmptyLine 1 (naturalLines t) → parse t = .ok emptyEntry) ∧
      (¬HasEmptyLine 1 (naturalLines t) → parse t = .ok ∅) := by
  obtain ⟨htext, hcomplete⟩ := h.linesFrom_empty 1 none rfl
  have hall : ∀ l ∈ logicalLines t, l.complete = true := hcomplete.mpr rfl
  have hparse : parse t = .ok (.ofList (List.replicate (logicalLines t).length ([], []))) := by
    rw [parse, entries, mapM_entry_of_empty hall htext]
    rfl
  rw [← HasEmptyLine.exists_iff, hparse]
  constructor
  · rintro ⟨l, hl, -, -⟩
    rw [ofList_replicate_empty (Nat.ne_of_gt (List.length_pos_of_mem hl))]
  · intro hnone
    have hnil : logicalLines t = [] :=
      List.eq_nil_iff_forall_not_mem.mpr fun l hl => hnone ⟨l, hl, hall l hl, htext l hl⟩
    rw [hnil]
    rfl

/-- An empty entry becomes the lead with an equals sign, and what the resolver makes of the empty value. -/
theorem take_appendProperties_emptyEntry (h : parse t = .ok emptyEntry) (here : Path) (as : Arguments) (lead : Text)
    (resolver : Resolver) (secret : Bool) :
    (Step.appendProperties lead (some t) resolver secret).take here as =
      ⟨as ++ [⟨lead ++ "=" ++ (resolver.resolve [] (some [])).text, secret⟩],
        (resolver.resolve [] (some [])).warnings, none⟩ := by
  have hentries : emptyEntry.toList = [([], [])] := rfl
  have hlead (value : Text) : pairText lead [] value = lead ++ "=" ++ value := by simp [pairText]
  simp [Step.take, Arguments.appendProperties, propertyArguments, h, Except.map, hentries, hlead]

theorem take_appendProperties_empty (h : parse t = .ok ∅) (here : Path) (as : Arguments) (lead : Text)
    (resolver : Resolver) (secret : Bool) :
    (Step.appendProperties lead (some t) resolver secret).take here as = ⟨as, [], none⟩ := by
  have hentries : (∅ : OrderedMap Text Text).toList = [] := rfl
  simp [Step.take, Arguments.appendProperties, propertyArguments, h, Except.map, hentries]

/-- An empty value stays empty if values are left as they are or expanded. -/
theorem resolve_nil {resolver : Resolver} (h : resolver = .identity ∨ ∃ scope, resolver = .macros scope)
    (key : Option Text) : resolver.resolve [] key = ⟨[], []⟩ := by
  rcases h with rfl | ⟨scope, rfl⟩
  · rfl
  · simp [Macro.Scope.expand, Macro.pieces, Macro.Scope.expandPieces]

end Texts

/-- An empty logical line with an entry comes of bare marks of continuation before a blank line, and of nothing else.
A text of blanks, comments and marks of continuation is refused if a mark stands on its last line. Otherwise it defines
nothing and adds no argument, unless it has such lines: then it defines the empty key, and adds the lead with an equals
sign and what the resolver makes of nothing. That is nothing, if values are left as they are or expanded. -/
theorem emptyLine_iff_bareMarks (t : Text) :
    ((∃ l ∈ logicalLines t, (∃ entry, l.entry = .ok entry) ∧ l.text = []) ↔ HasEmptyLine 1 (naturalLines t)) ∧
    (Idle false true (naturalLines t) → ∃ number, parse t = .error ⟨.unterminated, number⟩) ∧
    (Idle false false (naturalLines t) → HasEmptyLine 1 (naturalLines t) → parse t = .ok emptyEntry ∧
      ∀ here as lead secret,
        (∀ resolver, (Step.appendProperties lead (some t) resolver secret).take here as =
          ⟨as ++ [⟨lead ++ "=" ++ (resolver.resolve [] (some [])).text, secret⟩],
            (resolver.resolve [] (some [])).warnings, none⟩) ∧
        ∀ resolver, (resolver = .identity ∨ ∃ scope, resolver = .macros scope) →
          (Step.appendProperties lead (some t) resolver secret).take here as =
            ⟨as ++ [⟨lead ++ "=", secret⟩], [], none⟩) ∧
    (Idle false false (naturalLines t) → ¬HasEmptyLine 1 (naturalLines t) → parse t = .ok ∅ ∧
      ∀ here as lead resolver secret,
        (Step.appendProperties lead (some t) resolver secret).take here as = ⟨as, [], none⟩) := by
  refine ⟨?_, Idle.parse_of_pending, fun hidle hempty => ?_, fun hidle hnone => ?_⟩
  · rw [← HasEmptyLine.exists_iff]
    exact exists_congr fun l => and_congr_right fun _ => and_congr_left fun htext => exists_entry_iff htext
  · have hparse := hidle.parse_of_not_pending.1 hempty
    refine ⟨hparse, fun here as lead secret => ⟨fun resolver => ?_, fun resolver hresolver => ?_⟩⟩
    · exact take_appendProperties_emptyEntry hparse here as lead resolver secret
    · rw [take_appendProperties_emptyEntry hparse here as lead resolver secret, resolve_nil hresolver, List.append_nil]
  · have hparse := hidle.parse_of_not_pending.2 hnone
    exact ⟨hparse, take_appendProperties_empty hparse⟩

/-- Two marks and a blank line behind a comment, a mark at the end, and no mark at all. -/
theorem emptyLine_iff_bareMarks_comment :
    parse "# none\n\\\n\t\\\n \n" = .ok emptyEntry ∧ (∃ number, parse "\\\n" = .error ⟨.unterminated, number⟩) ∧
      parse " \r#\\\r" = .ok ∅ := by
  have hmarks : Idle false false (naturalLines "# none\n\\\n\t\\\n \n") :=
    .comment ⟨.scalar '#', rfl, .inl rfl⟩ (.mark rfl (.mark rfl (.blank rfl .nil)))
  have hbare : ∀ mark ∈ (["\\", "\t\\"] : List Text), BareMark mark :=
    List.forall_mem_cons.mpr ⟨rfl, List.forall_mem_singleton.mpr rfl⟩
  have hempty : HasEmptyLine 1 (naturalLines "# none\n\\\n\t\\\n \n") :=
    @HasEmptyLine.intro 1 ["# none"] _ [] " " _ (.skipped rfl .nil) (by simp) (List.cons_ne_nil _ _) hbare rfl
  have hopen : Idle false true (naturalLines "\\\n") := .mark rfl .nil
  have hnone : Idle false false (naturalLines " \r#\\\r") :=
    .blank rfl (.comment ⟨.scalar '#', rfl, .inl rfl⟩ .nil)
  have hskipped : ¬HasEmptyLine 1 (naturalLines " \r#\\\r") := by
    rw [← HasEmptyLine.exists_iff]
    rintro ⟨l, hl, -⟩
    cases hl
  exact ⟨((emptyLine_iff_bareMarks _).2.2.1 hmarks hempty).1, (emptyLine_iff_bareMarks _).2.1 hopen,
    ((emptyLine_iff_bareMarks _).2.2.2 hnone hskipped).1⟩

/-- Nothing but a mark of continuation and line breaks, and yet an entry and an argument. -/
theorem markBeforeBlank_defines :
    Idle false false (naturalLines "\\\n\n") ∧
      (∃ l ∈ logicalLines "\\\n\n", (∃ entry, l.entry = .ok entry) ∧ l.text = []) ∧
      parse "\\\n\n" = .ok emptyEntry ∧
      (Step.take .top [] (.appendProperties "-D" (some "\\\n\n") .identity false)).arguments = [.plain "-D="] :=
  ⟨.mark rfl (.blank rfl .nil), ⟨⟨1, [], true⟩, List.mem_cons_self, ⟨([], []), rfl⟩, rfl⟩, rfl, rfl⟩

end Properties

end Invocation
