import Invocation.Proofs.Shell.Quoting
import Invocation.Proofs.Text.Quotes
import Invocation.Shell.Wrap

/-!
# Containment of metacharacters

Where the code points of an argument end up in a command. Metacharacters stand inside of quotes and behind their
carets; outside of quotes there are, of a quoted argument, only letters by themselves that a percent sign came before;
and no letter follows a percent sign.
-/

namespace Invocation

namespace Shell

/-! ## Quotes of an argument -/

theorem wantsCaret_quote : wantsCaret (.scalar '"') = false := rfl

theorem not_letter_quote : (CodePoint.scalar '"').isAsciiLetter = false := rfl

theorem not_letter_percent : (CodePoint.scalar '%').isAsciiLetter = false := rfl

theorem not_letter_caret : (CodePoint.scalar '^').isAsciiLetter = false := rfl

theorem ne_quote_of_wantsCaret {c : CodePoint} (h : wantsCaret c = true) : c ≠ '"' := by
  rintro rfl
  simp [wantsCaret_quote] at h

theorem ne_quote_of_letter {c : CodePoint} (h : c.isAsciiLetter = true) : c ≠ '"' := by
  rintro rfl
  simp [not_letter_quote] at h

/-- The quotes in the spelling of a code point close what they open. -/
theorem opensQuotes_spelled (percent : Bool) (c : CodePoint) : (spelled percent c).opensQuotes = false := by
  rcases spelled_cases percent c with ⟨hc, e⟩ | ⟨rfl, e⟩ | ⟨-, hl, e⟩ | ⟨-, hq, -, e⟩
  · simp [e, ne_quote_of_wantsCaret hc]
  · simp [e]
  · simp [e, ne_quote_of_letter hl]
  · simp [e, hq]

theorem opensQuotes_quotedRest (percent : Bool) (t : Text) : (quotedRest percent t).opensQuotes = true := by
  induction t generalizing percent with
  | nil => rfl
  | cons c r ih => simp [quotedRest, opensQuotes_spelled, ih]

theorem opensQuotes_of_no_trigger {percent : Bool} {t : Text} (h : hasTrigger percent t = false) :
    t.opensQuotes = false := by
  induction t generalizing percent with
  | nil => rfl
  | cons c r ih =>
      simp only [hasTrigger, isTrigger, Bool.or_eq_false_iff, decide_eq_false_iff_not] at h
      simp [h.1.1.2, ih h.2]

/-- An escaped argument closes all its quotes. -/
theorem opensQuotes_escape (v : Text) : (escape v).opensQuotes = false := by
  cases h : hasTrigger false v with
  | true => simp [escape_of_trigger h, opensQuotes_quotedRest]
  | false => rw [escape_of_no_trigger h, opensQuotes_of_no_trigger h]

/-! ## The scanner inside quotes -/

/-- The scanner inside quotes: for `done` it has written `lead`, and `percent` tells that both end in a percent
sign. -/
structure Scanned (done lead : Text) (percent : Bool) : Prop where
  isOpen : lead.opensQuotes = true
  percent_done : percent = true → ∃ a, done = a ++ [.scalar '%']
  percent_lead : percent = true ↔ lead.getLast? = some (.scalar '%')

theorem Scanned.start : Scanned [] [.scalar '"'] false :=
  ⟨rfl, by simp, by simp⟩

theorem Scanned.step {done lead : Text} {percent : Bool} (h : Scanned done lead percent) (c : CodePoint) :
    Scanned (done ++ [c]) (lead ++ spelled percent c) (c = '%') := by
  refine ⟨by simp [h.isOpen, opensQuotes_spelled], fun hc => ⟨done, by simpa using hc⟩, ?_⟩
  rcases spelled_cases percent c with ⟨-, e⟩ | ⟨rfl, e⟩ | ⟨-, hl, e⟩ | ⟨-, -, -, e⟩
  · simp [e]
  · simp [e]
  · have hp : c ≠ '%' := by rintro rfl; simp [not_letter_percent] at hl
    simp [e, hp]
  · simp [e]

/-- A place in the escape of `v`: outside of quotes there is a double quote, or a letter by itself that a percent sign
comes before in `v`; and no letter follows a percent sign. -/
structure Contained (v before : Text) (c : CodePoint) (after : Text) : Prop where
  outside : before.opensQuotes = false → c = '"' ∨
    c.isAsciiLetter = true ∧ (∃ a b, v = a ++ .scalar '%' :: c :: b) ∧
      (∃ a, before = a ++ [.scalar '%', .scalar '"']) ∧ ∃ b, after = .scalar '"' :: b
  percent : before.getLast? = some (.scalar '%') → c.isAsciiLetter = false

theorem contained_quote (v before after : Text) : Contained v before (.scalar '"') after :=
  ⟨fun _ => .inl rfl, fun _ => not_letter_quote⟩

theorem Scanned.contained_spelled {done lead r v : Text} {percent : Bool} {c : CodePoint}
    (h : Scanned done lead percent) (hv : v = done ++ c :: r) (rest : Text) :
    (spelled percent c).Each fun before d after => Contained v (lead ++ before) d (after ++ rest) := by
  rcases spelled_cases percent c with ⟨-, e⟩ | ⟨rfl, e⟩ | ⟨hp, hl, e⟩ | ⟨-, -, hl, e⟩
  · simp only [e, Text.each_cons, Text.each_nil, and_true]
    exact ⟨⟨by simp [h.isOpen], fun _ => not_letter_caret⟩, by simp [h.isOpen], by simp⟩
  · simp only [e, Text.each_cons, Text.each_nil, and_true]
    exact ⟨contained_quote .., contained_quote ..⟩
  · simp only [e, Text.each_cons, Text.each_nil, and_true]
    refine ⟨contained_quote .., ⟨fun _ => .inr ⟨hl, ?_, ?_, rest, rfl⟩, by simp⟩, contained_quote ..⟩
    · obtain ⟨a, rfl⟩ := h.percent_done hp
      exact ⟨a, r, by simp [hv]⟩
    · obtain ⟨a, rfl⟩ := List.getLast?_eq_some_iff.mp (h.percent_lead.mp hp)
      exact ⟨a, by simp⟩
  · simp only [e, Text.each_cons, Text.each_nil, and_true]
    refine ⟨by simp [h.isOpen], fun hlast => ?_⟩
    have hp : percent = true := h.percent_lead.mpr (by simpa using hlast)
    simpa [hp] using hl

theorem Scanned.contained_quotedRest {done lead t v : Text} {percent : Bool} (h : Scanned done lead percent)
    (hv : v = done ++ t) : (quotedRest percent t).Each fun before c after => Contained v (lead ++ before) c after := by
  induction t generalizing done lead percent with
  | nil => simp [quotedRest, Text.each_cons, Text.each_nil, contained_quote]
  | cons c r ih =>
      rw [quotedRest, Text.each_append]
      refine ⟨h.contained_spelled hv _, ?_⟩
      have hrest := ih (h.step c) (by simp [hv])
      simpa only [List.append_assoc] using hrest

/-- Every place of a quoted argument. -/
theorem contained_escape {v : Text} (h : hasTrigger false v = true) : (escape v).Each (Contained v) := by
  rw [escape_of_trigger h, Text.each_cons]
  exact ⟨contained_quote .., Scanned.start.contained_quotedRest rfl⟩

/-! ## Arguments without quotes -/

/-- In an argument that asks for no quotes, no place asks for them. -/
theorem each_of_no_trigger {percent : Bool} (lead : Text) {t : Text}
    (hp : percent = true ↔ lead.getLast? = some (.scalar '%')) (h : hasTrigger percent t = false) :
    t.Each fun before c _ => isTrigger ((lead ++ before).getLast? = some (.scalar '%')) c = false := by
  induction t generalizing lead percent with
  | nil => exact Text.each_nil
  | cons c r ih =>
      simp only [hasTrigger, Bool.or_eq_false_iff] at h
      have hpercent : percent = decide (lead.getLast? = some (.scalar '%')) := by simp [← hp]
      refine Text.each_cons.mpr ⟨by simpa [← hpercent] using h.1, ?_⟩
      simpa using ih (lead ++ [c]) (by simp) h.2

/-! ## Every argument -/

/-- A place of an escaped argument, quoted or not. -/
structure Placed (before : Text) (c : CodePoint) : Prop where
  inside : wantsQuotes c = true ∨ wantsCaret c = true → before.opensQuotes = true
  percent : before.getLast? = some (.scalar '%') → c.isAsciiLetter = false

theorem ne_quote_of_wantsQuotes {c : CodePoint} (h : wantsQuotes c = true) : c ≠ '"' := by
  rintro rfl
  exact absurd h (by decide)

theorem not_letter_of_wantsQuotes {c : CodePoint} (h : wantsQuotes c = true) : c.isAsciiLetter = false := by
  simp only [wantsQuotes, CodePoint.isOneOf, List.any_cons, List.any_nil, Bool.or_false, Bool.or_eq_true,
    decide_eq_true_eq] at h
  rcases h with rfl | rfl | rfl | rfl <;> rfl

theorem not_letter_of_wantsCaret {c : CodePoint} (h : wantsCaret c = true) : c.isAsciiLetter = false := by
  simp only [wantsCaret, CodePoint.isOneOf, List.any_cons, List.any_nil, Bool.or_false, Bool.or_eq_true,
    decide_eq_true_eq] at h
  rcases h with rfl | rfl | rfl | rfl | rfl <;> rfl

theorem wantsQuotes_of_isOneOf {c : CodePoint} (h : c.isOneOf ['*', '?', ';'] = true) : wantsQuotes c = true := by
  simp only [wantsQuotes, CodePoint.isOneOf, List.any_cons, Bool.or_eq_true] at h ⊢
  exact .inr h

theorem Contained.placed {v before after : Text} {c : CodePoint} (h : Contained v before c after) :
    Placed before c := by
  refine ⟨fun hc => ?_, h.percent⟩
  have hq : c ≠ '"' := hc.elim ne_quote_of_wantsQuotes ne_quote_of_wantsCaret
  have hl : c.isAsciiLetter = false := hc.elim not_letter_of_wantsQuotes not_letter_of_wantsCaret
  cases ho : before.opensQuotes with
  | true => rfl
  | false => rcases h.outside ho with e | ⟨e, -⟩ <;> simp_all

theorem placed_of_not_trigger {before : Text} {c : CodePoint}
    (h : isTrigger (before.getLast? = some (.scalar '%')) c = false) : Placed before c := by
  simp only [isTrigger, Bool.or_eq_false_iff, decide_eq_false_iff_not] at h
  obtain ⟨⟨⟨hq, hc⟩, -⟩, hl⟩ := h
  refine ⟨by simp [hq, hc], fun hp => ?_⟩
  simpa [hp] using hl

theorem placed_escape (v : Text) : (escape v).Each fun before c _ => Placed before c := by
  cases h : hasTrigger false v with
  | true => exact (contained_escape h).imp fun _ _ _ => Contained.placed
  | false =>
      rw [escape_of_no_trigger h]
      exact (each_of_no_trigger [] (by simp) h).imp fun _ _ _ => placed_of_not_trigger

/-! ## The command -/

/-- The part of a command that comes from its arguments. -/
def argumentsText (values : List Text) : Text := values.flatMap fun v => escape v ++ [.scalar ' ']

theorem commandText_eq (values : List Text) : commandText values = argumentsText values ++ exitTrailer := rfl

theorem opensQuotes_argumentsText (values : List Text) : (argumentsText values).opensQuotes = false := by
  induction values with
  | nil => rfl
  | cons v vs ih =>
      rw [argumentsText, List.flatMap_cons, ← argumentsText]
      simp [opensQuotes_escape, ih]

/-- The spaces between the arguments are no place of an argument. -/
theorem placed_argumentsText (values : List Text) :
    (argumentsText values).Each fun before c _ => c ≠ ' ' → Placed before c := by
  induction values with
  | nil => exact Text.each_nil
  | cons v vs ih =>
      rw [argumentsText, List.flatMap_cons, ← argumentsText, Text.each_append, Text.each_append]
      refine ⟨⟨(placed_escape v).imp fun _ _ _ h _ => h, ?_⟩, ih.imp fun before c _ h hc => ?_⟩
      · simp [Text.each_cons, Text.each_nil]
      · obtain ⟨hinside, hpercent⟩ := h hc
        refine ⟨fun hm => by simp [opensQuotes_escape, hinside hm], fun hlast => ?_⟩
        -- the space behind the argument is no percent sign
        cases before with
        | nil => simp at hlast
        | cons d r => exact hpercent (by simpa using hlast)

/-! ## Carets -/

/-- From the left, each caret makes a pair with the metacharacter behind it, and no metacharacter stands outside of a
pair. -/
inductive CaretPairs : Text → Prop where
  | nil : CaretPairs []
  | pair {c : CodePoint} {r : Text} : wantsCaret c = true → CaretPairs r → CaretPairs (.scalar '^' :: c :: r)
  | other {c : CodePoint} {r : Text} : wantsCaret c = false → CaretPairs r → CaretPairs (c :: r)

theorem CaretPairs.append {a b : Text} (ha : CaretPairs a) (hb : CaretPairs b) : CaretPairs (a ++ b) := by
  induction ha with
  | nil => exact hb
  | pair hc _ ih => exact .pair hc ih
  | other hc _ ih => exact .other hc ih

theorem wantsCaret_of_letter {c : CodePoint} (h : c.isAsciiLetter = true) : wantsCaret c = false := by
  cases hc : wantsCaret c with
  | false => rfl
  | true => simp [not_letter_of_wantsCaret hc] at h

theorem caretPairs_spelled (percent : Bool) (c : CodePoint) : CaretPairs (spelled percent c) := by
  rcases spelled_cases percent c with ⟨hc, e⟩ | ⟨-, e⟩ | ⟨-, hl, e⟩ | ⟨hc, -, -, e⟩
  · exact e ▸ .pair hc .nil
  · exact e ▸ .other wantsCaret_quote (.other wantsCaret_quote .nil)
  · exact e ▸ .other wantsCaret_quote (.other (wantsCaret_of_letter hl) (.other wantsCaret_quote .nil))
  · exact e ▸ .other hc .nil

theorem caretPairs_quotedRest (percent : Bool) (t : Text) : CaretPairs (quotedRest percent t) := by
  induction t generalizing percent with
  | nil => exact .other wantsCaret_quote .nil
  | cons c r ih => exact (caretPairs_spelled percent c).append (ih _)

theorem caretPairs_of_no_trigger {percent : Bool} {t : Text} (h : hasTrigger percent t = false) : CaretPairs t := by
  induction t generalizing percent with
  | nil => exact .nil
  | cons c r ih =>
      simp only [hasTrigger, isTrigger, Bool.or_eq_false_iff] at h
      exact .other h.1.1.1.2 (ih h.2)

theorem caretPairs_escape (v : Text) : CaretPairs (escape v) := by
  cases h : hasTrigger false v with
  | true => exact escape_of_trigger h ▸ .other wantsCaret_quote (caretPairs_quotedRest false v)
  | false => exact (escape_of_no_trigger h).symm ▸ caretPairs_of_no_trigger h

theorem caretPairs_argumentsText (values : List Text) : CaretPairs (argumentsText values) := by
  induction values with
  | nil => exact .nil
  | cons v vs ih =>
      rw [argumentsText, List.flatMap_cons, ← argumentsText]
      exact ((caretPairs_escape v).append (.other rfl .nil)).append ih

/-! ## Containment -/

/-- In the command that wraps a list of arguments, before its trailer: each argument closes its quotes; every
metacharacter stands inside of quotes; carets and what they escape come in pairs; what of a quoted argument stands
outside of quotes is a quote, or a letter between two quotes that a percent sign came before in the argument; and no
letter follows a percent sign. -/
theorem wrap_contains_metacharacters (values : List Text) :
    wrap values =
      [Argument.plain executable, Argument.plain switch,
        Argument.plain (Text.inQuotes (argumentsText values ++ exitTrailer))] ∧
    (∀ v ∈ values, (escape v).count (.scalar '"') % 2 = 0) ∧
    (∀ (before : Text) (c : CodePoint) (after : Text), argumentsText values = before ++ c :: after →
      wantsCaret c = true ∨ c.isOneOf ['*', '?', ';'] = true → before.count (.scalar '"') % 2 = 1) ∧
    CaretPairs (argumentsText values) ∧
    (∀ (us : List Text) (v : Text) (vs : List Text), values = us ++ v :: vs → escape v ≠ v →
      ∀ (before : Text) (c : CodePoint) (after : Text), escape v = before ++ c :: after →
        (argumentsText us ++ before).count (.scalar '"') % 2 = 0 → c ≠ '"' →
          c.isAsciiLetter = true ∧ (∃ a b, v = a ++ .scalar '%' :: c :: b) ∧
            (∃ a, before = a ++ [.scalar '%', .scalar '"']) ∧ ∃ b, after = .scalar '"' :: b) ∧
    (∀ (before : Text) (c : CodePoint) (after : Text), argumentsText values = before ++ .scalar '%' :: c :: after →
      c.isAsciiLetter = false) := by
  refine ⟨rfl, fun v _ => ?_, fun before c after e hc => ?_, caretPairs_argumentsText values, ?_, ?_⟩
  · simpa [Text.opensQuotes] using opensQuotes_escape v
  · have hspace : c ≠ ' ' := by rintro rfl; exact absurd hc (by decide)
    have hplaced := placed_argumentsText values before c after e hspace
    have hopen := hplaced.inside (hc.symm.imp_left wantsQuotes_of_isOneOf)
    simpa [Text.opensQuotes] using hopen
  · rintro us v vs - hv before c after e hout hc
    have ht : hasTrigger false v = true := hasTrigger_of_escape_ne hv
    have hclosed : before.opensQuotes = false := by
      have : (argumentsText us ++ before).opensQuotes = false := by simpa [Text.opensQuotes] using hout
      simpa [opensQuotes_argumentsText] using this
    exact ((contained_escape ht before c after e).outside hclosed).resolve_left hc
  · intro before c after e
    by_cases hspace : c = ' '
    · exact hspace ▸ rfl
    · exact (placed_argumentsText values (before ++ [.scalar '%']) c after (by simp [e]) hspace).percent (by simp)

end Shell

end Invocation
