import Invocation.Proofs.Properties.LogicalLines
import Invocation.Properties.Parse

/-!
# Malformed property texts

A property text is read as a whole or not at all: one malformed logical line, wherever it stands, is enough, and the
first of them is to blame. The numbers of lines are there for the blame alone.
-/

namespace Invocation

namespace Properties

/-- What is wrong with a logical line. -/
def LogicalLine.error? (l : LogicalLine) : Option Error :=
  match l.entry with
  | .ok _ => none
  | .error e => some e

/-- Some logical line of the text cannot be read. -/
def Malformed (t : Text) : Prop := ∃ l ∈ logicalLines t, l.error?.isSome

theorem mapM_entry_eq_error_iff (ls : List LogicalLine) (e : Error) :
    ls.mapM LogicalLine.entry = .error e ↔ ls.findSome? LogicalLine.error? = some e := by
  induction ls with
  | nil => simp [pure, Except.pure]
  | cons l ls ih =>
      rw [List.mapM_cons]
      cases hl : l.entry with
      | error f => simp [LogicalLine.error?, hl, bind, Except.bind]
      | ok entry =>
          cases hls : ls.mapM LogicalLine.entry with
          | error f => simpa [LogicalLine.error?, hl, hls, bind, Except.bind] using ih
          | ok entries => simpa [LogicalLine.error?, hl, hls, bind, Except.bind, pure, Except.pure] using ih

/-- The error of a text is that of its first malformed line. -/
theorem parse_eq_error_iff {t : Text} {e : Error} :
    parse t = .error e ↔ (logicalLines t).findSome? LogicalLine.error? = some e := by
  rw [← mapM_entry_eq_error_iff, parse, entries]
  cases (logicalLines t).mapM LogicalLine.entry <;> simp [Except.map]

/-- Lines that have entries have no errors. -/
theorem findSome?_error?_of_mapM_entry {ls : List LogicalLine} {es : List (Text × Text)}
    (h : ls.mapM LogicalLine.entry = .ok es) : ls.findSome? LogicalLine.error? = none := by
  refine Option.eq_none_iff_forall_ne_some.mpr fun e he => ?_
  rw [← mapM_entry_eq_error_iff, h] at he
  cases he

theorem exists_entries_of_parse_eq_ok {t : Text} {m : OrderedMap Text Text} (h : parse t = .ok m) :
    ∃ es, entries t = .ok es ∧ OrderedMap.ofList es = m := by
  rw [parse] at h
  cases hes : entries t with
  | error e =>
      rw [hes] at h
      cases h
  | ok es =>
      rw [hes] at h
      exact ⟨es, rfl, Except.ok.inj h⟩

theorem findSome?_error?_of_parse_eq_ok {t : Text} {m : OrderedMap Text Text} (h : parse t = .ok m) :
    (logicalLines t).findSome? LogicalLine.error? = none := by
  obtain ⟨es, hes, -⟩ := exists_entries_of_parse_eq_ok h
  exact findSome?_error?_of_mapM_entry hes

theorem malformed_iff {t : Text} : Malformed t ↔ ∃ e, parse t = .error e := by
  simp only [parse_eq_error_iff, ← Option.isSome_iff_exists, List.isSome_findSome?, List.any_eq_true, Malformed]

/-! ## Numbers of lines -/

/-- The error where `f` says how natural lines are numbered. -/
def Error.renumber (f : Nat → Nat) (e : Error) : Error := { e with line := f e.line }

theorem LogicalLine.entry_renumber (f : Nat → Nat) (l : LogicalLine) :
    (l.renumber f).entry = l.entry.mapError (Error.renumber f) := by
  obtain ⟨start, text, complete⟩ := l
  cases complete with
  | false => rfl
  | true =>
      simp only [entry, renumber, if_true]
      cases meaning? (splitKey text).1 <;> cases meaning? (afterSeparator (splitKey text).2) <;> rfl

theorem mapM_entry_renumber (f : Nat → Nat) (ls : List LogicalLine) :
    (ls.map (LogicalLine.renumber f)).mapM LogicalLine.entry =
      (ls.mapM LogicalLine.entry).mapError (Error.renumber f) := by
  induction ls with
  | nil => rfl
  | cons l ls ih =>
      rw [List.map_cons, List.mapM_cons, List.mapM_cons, ih, LogicalLine.entry_renumber]
      cases l.entry with
      | error e => rfl
      | ok entry => cases ls.mapM LogicalLine.entry <;> rfl

end Properties

end Invocation
