import Mathlib.Data.List.Basic
import Invocation.Macro.Expand
import Invocation.Proofs.Text.Basic

/-!
# References and warnings

Each reference of a template is looked up once, and each warning is about one that has no value. Its message tells
which.
-/

namespace Invocation

/-! ## Unwritable formats -/

namespace Utf8

theorem map_eq_error {α β ε : Type} {f : α → β} {x : Except ε α} {e : ε} : f <$> x = .error e ↔ x = .error e := by
  cases x <;> simp [Functor.map, Except.map]

/-- Surrogates that stand together are reported together, so the run has to end before something is added. -/
theorem encodeFrom_append_of_error {byte? : Fin 2048 → Option UInt8} {position : Nat} {t : Text} {e : EncodeError}
    (h : encodeFrom byte? position t = .error e) (c : Char) (r : Text) :
    encodeFrom byte? position (t ++ .scalar c :: r) = .error e := by
  induction t generalizing position with
  | nil => simp [encodeFrom] at h
  | cons d t ih =>
      cases d with
      | scalar d =>
          rw [encodeFrom, map_eq_error] at h
          rw [List.cons_append, encodeFrom, map_eq_error]
          exact ih h
      | surrogate i =>
          cases hb : byte? i with
          | some b =>
              simp only [encodeFrom, hb, map_eq_error] at h
              simp only [List.cons_append, encodeFrom, hb, map_eq_error]
              exact ih h
          | none =>
              have hrun :
                  (t ++ .scalar c :: r).takeWhile CodePoint.isSurrogate = t.takeWhile CodePoint.isSurrogate := by
                rw [List.takeWhile_append]
                split
                · rename_i hall
                  have := List.takeWhile_prefix (l := t) CodePoint.isSurrogate
                  simp [CodePoint.isSurrogate, this.eq_of_length hall]
                · rfl
              simp only [encodeFrom, hb] at h
              simp only [List.cons_append, encodeFrom, hb, hrun]
              exact h

end Utf8

namespace Macro

/-! ## Messages -/

namespace Warning

/-- The name that a warning is about. -/
def reference : Warning → Text
  | missingEnvironment name => "ENV:" ++ name
  | badDateFormat format _ => "DATE:" ++ format
  | unknownVariable name => name

/-- Whether a warning can come up: the error of a date format is the one that the format has. -/
def IsGenuine : Warning → Prop
  | badDateFormat format e => Utf8.encode format = .error e
  | _ => True

/-- A format that is not to be written has the same error with a quote and more behind it, so the quote that ends the
format in a message is not taken for one inside. -/
theorem nil_of_message_eq {format more : Text} {e e' : Utf8.EncodeError} (h : Utf8.encode format = .error e)
    (h' : Utf8.encode (format ++ more) = .error e')
    (hm : Text.ofString "': " ++ e.message = more ++ (Text.ofString "': " ++ e'.message)) : more = [] := by
  cases more with
  | nil => rfl
  | cons c more =>
      have hc : c = CodePoint.scalar '\'' := (List.cons.inj hm).1.symm
      rw [hc] at h'
      have he : e = e' := Except.error.inj ((Utf8.encodeFrom_append_of_error h '\'' more).symm.trans h')
      have hlength := congrArg List.length hm
      simp only [he, List.length_append, List.length_cons] at hlength
      omega

theorem format_eq_of_message_eq {format format' : Text} {e e' : Utf8.EncodeError} (h : Utf8.encode format = .error e)
    (h' : Utf8.encode format' = .error e')
    (hm : format ++ (Text.ofString "': " ++ e.message) = format' ++ (Text.ofString "': " ++ e'.message)) :
    format = format' := by
  rcases List.append_eq_append_iff.mp hm with ⟨more, rfl, hmore⟩ | ⟨more, rfl, hmore⟩
  · simp [nil_of_message_eq h h' hmore]
  · simp [nil_of_message_eq h' h hmore]

/-- Warnings that can come up are told apart by their messages. -/
theorem eq_of_message_eq {w w' : Warning} (h : w.IsGenuine) (h' : w'.IsGenuine) (hm : w.message = w'.message) :
    w = w' := by
  cases w with
  | missingEnvironment name =>
      cases w' with
      | missingEnvironment name' => simpa [message] using hm
      | badDateFormat format' e' => cases (List.cons.inj hm).1
      | unknownVariable name' => cases (List.cons.inj hm).1
  | badDateFormat format e =>
      cases w' with
      | missingEnvironment name' => cases (List.cons.inj hm).1
      | badDateFormat format' e' =>
          have hformat : format = format' := format_eq_of_message_eq h h' (by simpa [message] using hm)
          subst hformat
          rw [Except.error.inj (h.symm.trans h')]
      | unknownVariable name' => cases (List.cons.inj hm).1
  | unknownVariable name =>
      cases w' with
      | missingEnvironment name' => cases (List.cons.inj hm).1
      | badDateFormat format' e' => cases (List.cons.inj hm).1
      | unknownVariable name' => simpa [message] using hm

theorem map_message_inj {ws ws' : List Warning} (h : ∀ w ∈ ws, w.IsGenuine) (h' : ∀ w ∈ ws', w.IsGenuine) :
    ws.map message = ws'.map message ↔ ws = ws' := by
  refine ⟨fun hm => ?_, fun heq => heq ▸ rfl⟩
  induction ws generalizing ws' with
  | nil => simpa using hm.symm
  | cons w ws ih =>
      cases ws' with
      | nil => simp at hm
      | cons w' ws' =>
          simp only [List.map_cons, List.cons.injEq] at hm
          simp only [List.forall_mem_cons] at h h'
          rw [eq_of_message_eq h.1 h'.1 hm.1, ih h.2 h'.2 hm.2]

end Warning

/-! ## References -/

/-- The name that a piece of a template refers to. -/
def Piece.target? : Piece → Option Text
  | literal _ | dollar => none
  | named name => some name
  | braced body =>
    match Text.cutAt '|' body with
    | none => some body.trim
    | some (name, _) => some name.trim

/-- The names that a template refers to, from the left. -/
def references (template : Text) : List Text := (pieces template).filterMap Piece.target?

namespace Scope

/-- What is said about a name that has no value. -/
def complaint? (s : Scope) (name : Text) : Option Warning :=
  match s.lookup name with
  | .ok _ => none
  | .error w => some w

/-- Those of the names that have no value. -/
def unresolved (s : Scope) (names : List Text) : List Text := names.filter fun name => (s.complaint? name).isSome

variable {s : Scope}

theorem encode_of_dateValue {format : Text} {w : Warning} (h : s.dateValue format = .error w) :
    ∃ e, w = .badDateFormat format e ∧ Utf8.encode format = .error e := by
  unfold dateValue DateFormat.write at h
  cases he : Utf8.encode format with
  | error e =>
      refine ⟨e, ?_, rfl⟩
      simpa [he, bind, Except.bind, Except.mapError] using h.symm
  | ok bytes =>
      simp only [he, bind, Except.bind, pure, Except.pure] at h
      split at h <;> simp [Except.mapError] at h

/-- A name is complained about by a warning that leads back to it. -/
theorem genuine_of_lookup {name : Text} {w : Warning} (h : s.lookup name = .error w) :
    w.IsGenuine ∧ w.reference = name := by
  unfold lookup at h
  split at h
  · rename_i inner _ hname
    unfold environmentValue at h
    split at h
    · simp at h
    · cases h
      exact ⟨trivial, (Text.eq_of_after? hname).symm⟩
  · rename_i format _ hname
    obtain ⟨e, rfl, he⟩ := encode_of_dateValue h
    exact ⟨he, (Text.eq_of_after? hname).symm⟩
  · unfold variableValue at h
    split at h
    · simp at h
    · split at h
      · simp at h
      · split at h
        · simp at h
        · cases h
          exact ⟨trivial, rfl⟩

theorem warnings_expandPiece (s : Scope) (p : Piece) :
    (s.expandPiece p).warnings = (p.target?.bind s.complaint?).toList := by
  cases p with
  | literal c => rfl
  | dollar => rfl
  | named name =>
      simp only [expandPiece, Piece.target?, Option.bind_some, complaint?]
      cases s.lookup name <;> rfl
  | braced body =>
      simp only [expandPiece, braced, Piece.target?]
      cases Text.cutAt '|' body with
      | none =>
          simp only [Option.bind_some, complaint?]
          cases s.lookup body.trim <;> rfl
      | some parts =>
          simp only [Option.bind_some, complaint?]
          cases s.lookup parts.1.trim with
          | error w => rfl
          | ok value => cases value <;> rfl

/-- A template is warned about for each name without a value, also where there is a fallback. -/
theorem warnings_expand (s : Scope) (template : Text) :
    (s.expand template).warnings = (references template).filterMap s.complaint? := by
  simp only [expand, expandPieces, references, List.filterMap_filterMap, List.flatMap_map, warnings_expandPiece]
  exact (List.filterMap_eq_flatMap_toList _ _).symm

theorem genuine_of_complaint {name : Text} {w : Warning} (h : s.complaint? name = some w) :
    w.IsGenuine ∧ w.reference = name := by
  unfold complaint? at h
  split at h
  · simp at h
  · rename_i hlookup
    exact Option.some.inj h ▸ genuine_of_lookup hlookup

variable {names names' : List Text}

/-- The names that are complained about can be read off the complaints. -/
theorem map_reference_complaints : (names.filterMap s.complaint?).map Warning.reference = s.unresolved names := by
  rw [List.map_filterMap, unresolved, ← List.filterMap_eq_filter]
  refine List.filterMap_congr fun name _ => ?_
  cases h : s.complaint? name with
  | none => simp [Option.guard, h]
  | some w => simp [Option.guard, h, (genuine_of_complaint h).2]

theorem filterMap_unresolved : (s.unresolved names).filterMap s.complaint? = names.filterMap s.complaint? := by
  rw [unresolved, List.filterMap_filter]
  refine List.filterMap_congr fun name _ => ?_
  cases s.complaint? name <;> rfl

/-- Complaints tell which names have no value, and nothing else. -/
theorem complaints_eq_iff :
    (names.filterMap s.complaint?).map Warning.message = (names'.filterMap s.complaint?).map Warning.message ↔
      s.unresolved names = s.unresolved names' := by
  have hgenuine (names : List Text) : ∀ w ∈ names.filterMap s.complaint?, w.IsGenuine := by
    intro w hw
    obtain ⟨name, -, hname⟩ := List.mem_filterMap.mp hw
    exact (genuine_of_complaint hname).1
  rw [Warning.map_message_inj (hgenuine names) (hgenuine names')]
  constructor
  · intro h
    rw [← map_reference_complaints, h, map_reference_complaints]
  · intro h
    rw [← filterMap_unresolved, h, filterMap_unresolved]

end Scope

end Macro

end Invocation
