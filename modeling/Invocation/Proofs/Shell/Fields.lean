import Invocation.Proofs.Shell.Boundaries
import Invocation.Proofs.Shell.Eager

/-!
# Fields of a command

A command line is read in fields, which are divided by runs of white space outside of quotes. No field of a wrapped
command has to do with two arguments. An argument is one field, unless it is empty, or has a tab or a line break in it
and nothing that asks for quotes.
-/

namespace Invocation

/-- White space between the fields of a command line. -/
def CodePoint.isFieldBreak (c : CodePoint) : Bool := c.isOneOf [' ', '\t', '\r', '\n']

namespace Text

/-! ## Fields -/

/-- The pieces of the text between the breaks outside of quotes; `isOpen` tells that it begins inside of them. -/
def cutAtBreaks (isOpen : Bool) : Text → List Text
  | [] => [[]]
  | c :: r =>
    if c.isFieldBreak && !isOpen then [] :: cutAtBreaks isOpen r
    else (cutAtBreaks (isOpen ^^ (c = '"')) r).modifyHead (c :: ·)

/-- What stands between the runs of white space outside of quotes. -/
def fields (t : Text) : List Text := (cutAtBreaks false t).filter fun piece => !piece.isEmpty

/-- All breaks of the text stand inside of quotes; `isOpen` tells that it begins inside of them. -/
def BreaksQuoted (isOpen : Bool) (t : Text) : Prop :=
  t.Each fun before c _ => c.isFieldBreak = true → (isOpen ^^ before.opensQuotes) = true

theorem ne_quote_of_isFieldBreak {c : CodePoint} (h : c.isFieldBreak = true) : c ≠ '"' := by
  rintro rfl
  exact absurd h (by decide)

theorem breaksQuoted_nil (isOpen : Bool) : BreaksQuoted isOpen [] := each_nil

theorem breaksQuoted_cons {isOpen : Bool} {c : CodePoint} {t : Text} :
    BreaksQuoted isOpen (c :: t) ↔ (c.isFieldBreak = true → isOpen = true) ∧ BreaksQuoted (isOpen ^^ (c = '"')) t := by
  simp [BreaksQuoted, each_cons]

theorem cutAtBreaks_of_breaksQuoted {isOpen : Bool} {t : Text} (h : BreaksQuoted isOpen t) :
    cutAtBreaks isOpen t = [t] := by
  induction t generalizing isOpen with
  | nil => rfl
  | cons c r ih =>
      obtain ⟨hc, hr⟩ := breaksQuoted_cons.mp h
      have hinside : (c.isFieldBreak && !isOpen) = false := by
        cases hbreak : c.isFieldBreak with
        | true => simp [hc hbreak]
        | false => rfl
      simp [cutAtBreaks, hinside, ih hr]

/-- The first piece begins where the text begins, and every other piece outside of quotes. -/
theorem exists_cutAtBreaks (isOpen : Bool) (t : Text) :
    ∃ p ps, cutAtBreaks isOpen t = p :: ps ∧ BreaksQuoted isOpen p ∧ ∀ q ∈ ps, BreaksQuoted false q := by
  induction t generalizing isOpen with
  | nil => exact ⟨[], [], rfl, breaksQuoted_nil isOpen, by simp⟩
  | cons c r ih =>
      cases hbreak : c.isFieldBreak && !isOpen with
      | true =>
          obtain ⟨p, ps, hcut, hp, hps⟩ := ih isOpen
          have hclosed : isOpen = false := by
            simp only [Bool.and_eq_true, Bool.not_eq_true'] at hbreak
            exact hbreak.2
          refine ⟨[], p :: ps, by simp [cutAtBreaks, hbreak, hcut], breaksQuoted_nil isOpen, fun q hq => ?_⟩
          rcases List.mem_cons.mp hq with rfl | hq
          · exact hclosed ▸ hp
          · exact hps q hq
      | false =>
          obtain ⟨p, ps, hcut, hp, hps⟩ := ih (isOpen ^^ (c = '"'))
          refine ⟨c :: p, ps, by simp [cutAtBreaks, hbreak, hcut], breaksQuoted_cons.mpr ⟨fun hc => ?_, hp⟩, hps⟩
          simpa [hc] using hbreak

theorem cutAtBreaks_append {isOpen : Bool} {a : Text} {c : CodePoint} (hc : c.isFieldBreak = true)
    (ha : (isOpen ^^ a.opensQuotes) = false) (b : Text) :
    cutAtBreaks isOpen (a ++ c :: b) = cutAtBreaks isOpen a ++ cutAtBreaks false b := by
  induction a generalizing isOpen with
  | nil =>
      have hclosed : isOpen = false := by simpa using ha
      simp [cutAtBreaks, hc, hclosed]
  | cons d r ih =>
      have hr : ((isOpen ^^ (d = '"')) ^^ opensQuotes r) = false := by simpa using ha
      cases hbreak : d.isFieldBreak && !isOpen with
      | true =>
          simp only [Bool.and_eq_true, Bool.not_eq_true'] at hbreak
          obtain ⟨hd, rfl⟩ := hbreak
          have hrest : cutAtBreaks false (r ++ c :: b) = cutAtBreaks false r ++ cutAtBreaks false b :=
            ih (by simpa [ne_quote_of_isFieldBreak hd] using hr)
          simp [cutAtBreaks, hd, hrest]
      | false =>
          obtain ⟨p, ps, hcut, -⟩ := exists_cutAtBreaks (isOpen ^^ (d = '"')) r
          have hrest := ih hr
          rw [hcut] at hrest
          simp [cutAtBreaks, hbreak, hrest, hcut]

/-- Behind a closed text a break ends its last field. -/
theorem fields_append {a : Text} {c : CodePoint} (hc : c.isFieldBreak = true) (ha : a.opensQuotes = false)
    (b : Text) : fields (a ++ c :: b) = fields a ++ fields b := by
  rw [fields, cutAtBreaks_append hc (by simpa using ha), List.filter_append, ← fields, ← fields]

theorem fields_of_breaksQuoted {t : Text} (h : BreaksQuoted false t) (ht : t ≠ []) : fields t = [t] := by
  simp [fields, cutAtBreaks_of_breaksQuoted h, ht]

theorem breaksQuoted_of_mem_fields {t field : Text} (h : field ∈ fields t) : BreaksQuoted false field := by
  obtain ⟨p, ps, hcut, hp, hps⟩ := exists_cutAtBreaks false t
  have hmem := (List.mem_filter.mp h).1
  rw [hcut] at hmem
  rcases List.mem_cons.mp hmem with rfl | hmem
  · exact hp
  · exact hps field hmem

theorem ne_nil_of_mem_fields {t field : Text} (h : field ∈ t.fields) : field ≠ [] := by
  simpa using (List.mem_filter.mp h).2

end Text

namespace Shell

/-! ## Fields of escaped arguments -/

theorem not_letter_of_isFieldBreak {c : CodePoint} (h : c.isFieldBreak = true) : c.isAsciiLetter = false := by
  simp only [CodePoint.isFieldBreak, CodePoint.isOneOf, List.any_cons, List.any_nil, Bool.or_false, Bool.or_eq_true,
    decide_eq_true_eq] at h
  rcases h with rfl | rfl | rfl | rfl <;> rfl

theorem quote_notMem {v : Text} (h : needsQuotes v = false) : .scalar '"' ∉ v := by
  intro hmem
  have hspecial : v.any isSpecial = true := List.any_eq_true.mpr ⟨_, hmem, by decide⟩
  simp [needsQuotes, hspecial] at h

/-- A quoted argument keeps its breaks inside of its quotes; without quotes there must be none. -/
theorem breaksQuoted_escape_iff (v : Text) :
    (escape v).BreaksQuoted false ↔ needsQuotes v = true ∨ ∀ c ∈ v, c.isFieldBreak = false := by
  cases h : needsQuotes v with
  | true =>
      have hcontained := contained_escape (v := v) (by simpa [hasTrigger_eq] using h)
      refine iff_of_true (hcontained.imp fun before c after hc hbreak => ?_) (.inl rfl)
      cases hopen : before.opensQuotes with
      | true => rfl
      | false =>
          rcases hc.outside hopen with hquote | ⟨hletter, -⟩
          · exact absurd hquote (Text.ne_quote_of_isFieldBreak hbreak)
          · simp [not_letter_of_isFieldBreak hbreak] at hletter
  | false =>
      have hescape : escape v = v := escape_of_no_trigger (by simpa [hasTrigger_eq] using h)
      rw [hescape]
      constructor
      · refine fun hv => .inr fun c hc => ?_
        obtain ⟨a, b, rfl⟩ := List.append_of_mem hc
        have hquote : CodePoint.scalar '"' ∉ a := fun ha => quote_notMem h (List.mem_append_left _ ha)
        have hclosed : Text.opensQuotes a = false := Text.opensQuotes_of_not_mem hquote
        have hopen := hv a c b rfl
        simpa [hclosed] using hopen
      · rintro (hv | hv) before c after hsplit hbreak
        · cases hv
        · simp [hv c (hsplit ▸ List.mem_append_right _ List.mem_cons_self)] at hbreak

theorem escape_ne_nil {v : Text} (h : v ≠ []) : escape v ≠ [] := by
  intro hescape
  exact h (escape_injective (hescape.trans rfl))

/-! ## Fields of commands -/

theorem fields_argumentsText (values : List Text) (rest : Text) :
    Text.fields (argumentsText values ++ rest) = (values.flatMap fun v => (escape v).fields) ++ rest.fields := by
  induction values with
  | nil => rfl
  | cons v vs ih =>
      rw [argumentsText, List.flatMap_cons, ← argumentsText, List.append_assoc, List.append_assoc,
        List.singleton_append, Text.fields_append rfl (opensQuotes_escape v), ih, List.flatMap_cons, List.append_assoc]

theorem fields_commandText (values : List Text) :
    (commandText values).fields = (values.flatMap fun v => (escape v).fields) ++ trailerWords := by
  have htrailer : exitTrailer.fields = trailerWords := by decide
  rw [commandText_eq, fields_argumentsText, htrailer]

/-- The fields of a wrapped command are those of each escaped argument, and the words of the trailer. Each argument is
one field, its escape, if and only if none is empty and all that have a tab or a line break in them have something in
them that asks for quotes. -/
theorem wrap_fields (values : List Text) :
    ∃ command : Text, (wrap values).values = [executable, switch, command.inQuotes] ∧
      command.fields = (values.flatMap fun v => (escape v).fields) ++ trailerWords ∧
      (command.fields = values.map escape ++ trailerWords ↔
        ∀ v ∈ values, v ≠ [] ∧ (needsQuotes v = true ∨ ∀ c ∈ v, c.isFieldBreak = false)) := by
  refine ⟨commandText values, rfl, fields_commandText values, fun hfields v hv => ?_, fun hquoted => ?_⟩
  · have hfield : escape v ∈ (commandText values).fields :=
      hfields ▸ List.mem_append_left trailerWords (List.mem_map_of_mem hv)
    refine ⟨?_, (breaksQuoted_escape_iff v).mp (Text.breaksQuoted_of_mem_fields hfield)⟩
    rintro rfl
    exact Text.ne_nil_of_mem_fields hfield rfl
  · have hone : ∀ v ∈ values, (escape v).fields = [escape v] := fun v hv =>
      Text.fields_of_breaksQuoted ((breaksQuoted_escape_iff v).mpr (hquoted v hv).2) (escape_ne_nil (hquoted v hv).1)
    rw [fields_commandText, List.flatMap_def, List.map_congr_left hone, ← List.flatMap_def, ← List.map_eq_flatMap]

/-- Arguments with white space, a tab inside of quotes, and a percent sign. -/
def messageCall : List Text := ["ant", "-Dmsg=a b\tc", "%PATH%"]

theorem wrap_fields_messageCall :
    ∃ command : Text, (wrap messageCall).values = [executable, switch, command.inQuotes] ∧
      command.fields = (["ant", "\"-Dmsg=a b\tc\"", "\"%\"P\"ATH%\""] : List Text) ++ trailerWords := by
  obtain ⟨command, hwrap, -, hiff⟩ := wrap_fields messageCall
  exact ⟨command, hwrap, (hiff.mpr (by decide)).trans (by decide)⟩

/-- A tab alone asks for no quotes, and an argument with one is two fields. Neither does an argument that is empty, and
it is no field at all. -/
theorem fields_differ_from_arguments :
    (wrap ["a\tb"]).values = [executable, switch, (commandText ["a\tb"]).inQuotes] ∧
    (commandText ["a\tb"]).fields = (["a", "b"] : List Text) ++ trailerWords ∧
    (commandText ["a\tb"]).fields ≠ [escape "a\tb"] ++ trailerWords ∧
    (wrap ["a", "", "b"]).values = [executable, switch, (commandText ["a", "", "b"]).inQuotes] ∧
    (commandText ["a", "", "b"]).fields = (["a", "b"] : List Text) ++ trailerWords ∧
    (commandText ["a", "", "b"]).fields ≠ [escape "a", escape "", escape "b"] ++ trailerWords := by
  decide

end Shell

end Invocation
