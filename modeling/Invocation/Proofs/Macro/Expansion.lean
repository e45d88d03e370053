import Mathlib.Data.List.Forall2
import Invocation.Macro.Recorder
import Invocation.Proofs.Macro.Pieces
import Invocation.Proofs.OrderedMap

/-!
# What a template expands to

A template is read without looking at any value, and each piece of it is then replaced by what it stands for. So no
character of a value or a fallback can become part of a reference. A recorder keeps the warnings of what it expands, and
none of what it only previews.
-/

namespace Invocation

namespace Macro

/-! ## Names -/

/-- A name that does not say where it is to be looked up. -/
def IsOrdinary (name : Text) : Prop := ¬Text.ofString "ENV:" <+: name ∧ ¬Text.ofString "DATE:" <+: name

namespace Scope

/-- The value of a name. Variables go before the two names that always have a value. -/
inductive Finds (s : Scope) : Text → Text → Prop where
  | environment {name value : Text} (h : (name, value) ∈ s.context.environment.toList) : Finds s ("ENV:" ++ name) value
  | date {format value : Text} (h : DateFormat.write s.context.now format = .ok value) :
      Finds s ("DATE:" ++ format) value
  | ordinary {name value : Text} (hname : IsOrdinary name) (h : (name, value) ∈ s.assignments.toList) :
      Finds s name value
  | home (h : Text.ofString "HOME" ∉ s.assignments.keys) : Finds s "HOME" s.context.home
  | process (h : Text.ofString "PID" ∉ s.assignments.keys) : Finds s "PID" (Text.ofInt s.context.process)

/-- The warning about a name that has no value. -/
inductive Misses (s : Scope) : Text → Warning → Prop where
  | environment {name : Text} (h : name ∉ s.context.environment.keys) :
      Misses s ("ENV:" ++ name) (.missingEnvironment name)
  | date {format : Text} {e : Utf8.EncodeError} (h : DateFormat.write s.context.now format = .error e) :
      Misses s ("DATE:" ++ format) (.badDateFormat format e)
  | ordinary {name : Text} (hname : IsOrdinary name) (h : name ∉ s.assignments.keys) (hhome : name ≠ "HOME")
      (hprocess : name ≠ "PID") : Misses s name (.unknownVariable name)

variable {s : Scope} {name value : Text} {w : Warning}

theorem lookup_environment (s : Scope) (name : Text) : s.lookup ("ENV:" ++ name) = s.environmentValue name := rfl

theorem lookup_date (s : Scope) (format : Text) : s.lookup ("DATE:" ++ format) = s.dateValue format := rfl

theorem lookup_of_isOrdinary (s : Scope) (h : IsOrdinary name) : s.lookup name = s.variableValue name := by
  have hnone {lead : Text} (hlead : ¬lead <+: name) : Text.after? lead name = none :=
    Option.eq_none_iff_forall_ne_some.mpr fun rest hrest => hlead ⟨rest, (Text.eq_of_after? hrest).symm⟩
  rw [lookup, hnone h.1, hnone h.2]

theorem name_cases (name : Text) :
    (∃ inner, name = "ENV:" ++ inner) ∨ (∃ format, name = "DATE:" ++ format) ∨ IsOrdinary name := by
  by_cases henv : Text.ofString "ENV:" <+: name
  · obtain ⟨inner, rfl⟩ := henv
    exact .inl ⟨inner, rfl⟩
  · by_cases hdate : Text.ofString "DATE:" <+: name
    · obtain ⟨format, rfl⟩ := hdate
      exact .inr (.inl ⟨format, rfl⟩)
    · exact .inr (.inr ⟨henv, hdate⟩)

theorem environmentValue_eq_ok_iff :
    s.environmentValue name = .ok value ↔ (name, value) ∈ s.context.environment.toList := by
  rw [environmentValue, ← OrderedMap.get?_eq_some_iff]
  cases s.context.environment.get? name <;> simp

theorem environmentValue_eq_error_iff :
    s.environmentValue name = .error w ↔ name ∉ s.context.environment.keys ∧ w = .missingEnvironment name := by
  rw [environmentValue, ← OrderedMap.get?_eq_none_iff]
  cases s.context.environment.get? name <;> simp [eq_comm]

theorem dateValue_eq_ok_iff {format : Text} :
    s.dateValue format = .ok value ↔ DateFormat.write s.context.now format = .ok value := by
  rw [dateValue]
  cases DateFormat.write s.context.now format <;> simp [Except.mapError]

theorem dateValue_eq_error_iff {format : Text} :
    s.dateValue format = .error w ↔
      ∃ e, DateFormat.write s.context.now format = .error e ∧ w = .badDateFormat format e := by
  rw [dateValue]
  cases DateFormat.write s.context.now format <;> simp [Except.mapError, eq_comm]

theorem variableValue_of_mem (h : (name, value) ∈ s.assignments.toList) : s.variableValue name = .ok value := by
  rw [variableValue, OrderedMap.get?_eq_some_iff.mpr h]

theorem variableValue_of_notMem (h : name ∉ s.assignments.keys) :
    s.variableValue name =
      if name = "HOME" then .ok s.context.home
      else if name = "PID" then .ok (Text.ofInt s.context.process)
      else .error (.unknownVariable name) := by
  rw [variableValue, OrderedMap.get?_eq_none_iff.mpr h]

theorem mem_or_notMem (s : Scope) (name : Text) :
    (∃ value, (name, value) ∈ s.assignments.toList) ∨ name ∉ s.assignments.keys := by
  cases h : s.assignments.get? name with
  | some value => exact .inl ⟨value, OrderedMap.get?_eq_some_iff.mp h⟩
  | none => exact .inr (OrderedMap.get?_eq_none_iff.mp h)

theorem finds_of_lookup (h : s.lookup name = .ok value) : s.Finds name value := by
  rcases name_cases name with ⟨inner, rfl⟩ | ⟨format, rfl⟩ | hname
  · rw [lookup_environment] at h
    exact .environment (environmentValue_eq_ok_iff.mp h)
  · rw [lookup_date] at h
    exact .date (dateValue_eq_ok_iff.mp h)
  · rw [s.lookup_of_isOrdinary hname] at h
    rcases s.mem_or_notMem name with ⟨v, hv⟩ | hnew
    · rw [variableValue_of_mem hv] at h
      exact Except.ok.inj h ▸ .ordinary hname hv
    · rw [variableValue_of_notMem hnew] at h
      by_cases hhome : name = "HOME"
      · subst hhome
        exact Except.ok.inj h ▸ .home hnew
      · rw [if_neg hhome] at h
        by_cases hprocess : name = "PID"
        · subst hprocess
          exact Except.ok.inj h ▸ .process hnew
        · rw [if_neg hprocess] at h
          cases h

theorem misses_of_lookup (h : s.lookup name = .error w) : s.Misses name w := by
  rcases name_cases name with ⟨inner, rfl⟩ | ⟨format, rfl⟩ | hname
  · rw [lookup_environment] at h
    obtain ⟨hnew, rfl⟩ := environmentValue_eq_error_iff.mp h
    exact .environment hnew
  · rw [lookup_date] at h
    obtain ⟨e, he, rfl⟩ := dateValue_eq_error_iff.mp h
    exact .date he
  · rw [s.lookup_of_isOrdinary hname] at h
    rcases s.mem_or_notMem name with ⟨v, hv⟩ | hnew
    · rw [variableValue_of_mem hv] at h
      cases h
    · rw [variableValue_of_notMem hnew] at h
      by_cases hhome : name = "HOME"
      · rw [if_pos hhome] at h
        cases h
      · rw [if_neg hhome] at h
        by_cases hprocess : name = "PID"
        · rw [if_pos hprocess] at h
          cases h
        · rw [if_neg hprocess] at h
          exact Except.error.inj h ▸ .ordinary hname hnew hhome hprocess

theorem lookup_of_finds (h : s.Finds name value) : s.lookup name = .ok value := by
  cases h with
  | environment h => rw [lookup_environment, environmentValue_eq_ok_iff.mpr h]
  | date h => rw [lookup_date, dateValue_eq_ok_iff.mpr h]
  | ordinary hname h =>
      rw [s.lookup_of_isOrdinary hname, variableValue_of_mem h]
  | home h => exact variableValue_of_notMem h
  | process h => exact variableValue_of_notMem h

theorem lookup_of_misses (h : s.Misses name w) : s.lookup name = .error w := by
  cases h with
  | environment h => rw [lookup_environment, environmentValue_eq_error_iff.mpr ⟨h, rfl⟩]
  | date h => rw [lookup_date, dateValue_eq_error_iff.mpr ⟨_, h, rfl⟩]
  | ordinary hname h hhome hprocess =>
      rw [s.lookup_of_isOrdinary hname, variableValue_of_notMem h, if_neg hhome, if_neg hprocess]

/-! ## Pieces -/

/-- What a piece is replaced by. A reference without a value stays as it is written, unless it has a fallback, which is
also used where the value is empty. -/
inductive Yields (s : Scope) : Piece → Expansion → Prop where
  | literal (c : CodePoint) : Yields s (.literal c) ⟨[c], []⟩
  | dollar : Yields s .dollar ⟨"$", []⟩
  | named {name value : Text} (h : s.Finds name value) : Yields s (.named name) ⟨value, []⟩
  | namedMissing {name : Text} {w : Warning} (h : s.Misses name w) :
      Yields s (.named name) ⟨.scalar '$' :: name, [w]⟩
  | braced {body value : Text} (hbar : .scalar '|' ∉ body) (h : s.Finds body.trim value) :
      Yields s (.braced body) ⟨value, []⟩
  | bracedMissing {body : Text} {w : Warning} (hbar : .scalar '|' ∉ body) (h : s.Misses body.trim w) :
      Yields s (.braced body) ⟨.scalar '$' :: .scalar '\x7b' :: (body ++ [.scalar '\x7d']), [w]⟩
  | preferred {name fallback value : Text} (hbar : .scalar '|' ∉ name) (h : s.Finds name.trim value)
      (hne : value ≠ []) : Yields s (.braced (name ++ .scalar '|' :: fallback)) ⟨value, []⟩
  | fallbackForEmpty {name fallback : Text} (hbar : .scalar '|' ∉ name) (h : s.Finds name.trim []) :
      Yields s (.braced (name ++ .scalar '|' :: fallback)) ⟨fallback.trim, []⟩
  | fallbackForMissing {name fallback : Text} {w : Warning} (hbar : .scalar '|' ∉ name) (h : s.Misses name.trim w) :
      Yields s (.braced (name ++ .scalar '|' :: fallback)) ⟨fallback.trim, [w]⟩

theorem yields_expandPiece (s : Scope) (p : Piece) : s.Yields p (s.expandPiece p) := by
  cases p with
  | literal c => exact .literal c
  | dollar => exact .dollar
  | named name =>
      cases h : s.lookup name with
      | ok value => simpa only [expandPiece, h] using .named (finds_of_lookup h)
      | error w => simpa only [expandPiece, h] using .namedMissing (misses_of_lookup h)
  | braced body =>
      cases hcut : Text.cutAt '|' body with
      | none =>
          have hbar := Text.cutAt_eq_none_iff.mp hcut
          cases h : s.lookup body.trim with
          | ok value => simpa only [expandPiece, Scope.braced, hcut, h] using .braced hbar (finds_of_lookup h)
          | error w => simpa only [expandPiece, Scope.braced, hcut, h] using .bracedMissing hbar (misses_of_lookup h)
      | some parts =>
          obtain ⟨hbar, rfl⟩ := Text.cutAt_eq_some_iff.mp hcut
          cases h : s.lookup parts.1.trim with
          | error w =>
              simpa only [expandPiece, Scope.braced, hcut, h] using .fallbackForMissing hbar (misses_of_lookup h)
          | ok value =>
              cases value with
              | nil => simpa only [expandPiece, Scope.braced, hcut, h] using .fallbackForEmpty hbar (finds_of_lookup h)
              | cons c r =>
                  simpa only [expandPiece, Scope.braced, hcut, h] using
                    .preferred hbar (finds_of_lookup h) (List.cons_ne_nil c r)

theorem expandPiece_of_yields {p : Piece} {e : Expansion} (h : s.Yields p e) : s.expandPiece p = e := by
  cases h with
  | literal c => rfl
  | dollar => rfl
  | named h => simp only [expandPiece, lookup_of_finds h]
  | namedMissing h => simp only [expandPiece, lookup_of_misses h, Piece.source]
  | braced hbar h =>
      simp only [expandPiece, Scope.braced, Text.cutAt_eq_none_iff.mpr hbar, lookup_of_finds h, Option.getD_some]
  | bracedMissing hbar h =>
      simp only [expandPiece, Scope.braced, Text.cutAt_eq_none_iff.mpr hbar, lookup_of_misses h]
      rfl
  | preferred hbar h hne =>
      obtain ⟨c, r, rfl⟩ := List.exists_cons_of_ne_nil hne
      simp only [expandPiece, Scope.braced, Text.cutAt_append hbar, lookup_of_finds h, Option.getD_some]
  | fallbackForEmpty hbar h =>
      simp only [expandPiece, Scope.braced, Text.cutAt_append hbar, lookup_of_finds h, Option.getD_some]
  | fallbackForMissing hbar h =>
      simp only [expandPiece, Scope.braced, Text.cutAt_append hbar, lookup_of_misses h, Option.getD_some]

/-- The pieces of a template are replaced each for itself, in one way only. -/
theorem forall₂_yields_iff {ps : List Piece} {es : List Expansion} :
    List.Forall₂ s.Yields ps es ↔ es = ps.map s.expandPiece := by
  have hiff : s.Yields = fun p e => s.expandPiece p = e := by
    funext p e
    exact propext ⟨expandPiece_of_yields, fun h => h ▸ s.yields_expandPiece p⟩
  rw [hiff, ← List.forall₂_map_left_iff (R := Eq), List.forall₂_eq_eq_eq, eq_comm]

end Scope

/-! ## Recorders -/

/-- What a recorder is asked to do. -/
inductive Call where
  | expand (template : Text)
  | preview (template : Text)

/-- The warnings that a recorder keeps from a call. -/
def Call.recorded (s : Scope) : Call → List Warning
  | expand template => (s.expand template).warnings
  | preview _ => []

namespace Recorder

/-- The recorder after a call. -/
def next (r : Recorder) : Call → Recorder
  | .expand template => (r.expand template).2
  | .preview _ => r

/-- The recorder after some calls, the first of them first. -/
def after (r : Recorder) (calls : List Call) : Recorder := calls.foldl next r

theorem next_eq (r : Recorder) (call : Call) : r.next call = ⟨r.scope, r.warnings ++ call.recorded r.scope⟩ := by
  cases call with
  | expand template => rfl
  | preview template => rw [Call.recorded, List.append_nil, next]

/-- Warnings are added behind those that are there, and names are always looked up in the same place. -/
theorem after_eq (r : Recorder) (calls : List Call) :
    r.after calls = ⟨r.scope, r.warnings ++ calls.flatMap (Call.recorded r.scope)⟩ := by
  induction calls generalizing r with
  | nil => rw [List.flatMap_nil, List.append_nil, after, List.foldl_nil]
  | cons call calls ih =>
      have hrest : (r.next call).after calls = r.after (call :: calls) := rfl
      rw [← hrest, ih, next_eq, List.flatMap_cons, List.append_assoc]

/-- A template can be read in one way, whatever names stand for, and what it expands to is put together from what its
pieces are replaced by. So nothing that stands in a value or in a fallback can take part in a reference. The warnings
are those of the pieces, from the left; they are recorded behind all others, and a preview leaves none. -/
theorem expand_after (template : Text) :
    ∃ ps, (∀ qs, Reads template qs ↔ qs = ps) ∧
      ∀ (r : Recorder) (calls : List Call),
        ∃ es, (∀ fs, List.Forall₂ r.scope.Yields ps fs ↔ fs = es) ∧
          (r.after calls).preview template = ⟨es.flatMap Expansion.text, es.flatMap Expansion.warnings⟩ ∧
          (r.after calls).expand template =
            (es.flatMap Expansion.text,
              ⟨r.scope, r.warnings ++ calls.flatMap (Call.recorded r.scope) ++ es.flatMap Expansion.warnings⟩) := by
  refine ⟨pieces template, fun qs => reads_iff, fun r calls => ?_⟩
  refine ⟨(pieces template).map r.scope.expandPiece, fun fs => Scope.forall₂_yields_iff, ?_⟩
  rw [after_eq]
  exact ⟨rfl, rfl⟩

end Recorder

end Macro

end Invocation
