import Mathlib.Data.List.Basic
import Invocation.Proofs.Build.Warnings
import Invocation.Proofs.Value.Integers
import Invocation.Spec.Problems

/-!
# Errors that can be foreseen

What stands against an entry can be told from the entry alone, without expanding anything. So the errors of a build are
the same wherever it is run, and a specification without problems has none unless an integer in it is too long.
-/

namespace Invocation

/-! ## Entries -/

theorem Value.fault_expand (s : Macro.Scope) (v : Value) :
    (v.expand s).fault = if v.holdsLong then some (.argument .integerTooLong) else none := by
  rw [← isNone_text?]
  cases v with
  | null | text _ => rfl
  | _ =>
      rw [expand_eq_of_not_text s _ (by simp) (by simp)]
      cases text? _ <;> rfl

namespace Entry

/-- An integer that the entry has to write out, in its value or in one of its pairs, is too long. The value counts for
every kind of entry, pairs only for entries that are made of them. -/
def holdsLong (e : Entry) : Bool :=
  e.value.holdsLong || e.kind == .keyValue && e.pairs.toList.any fun pair => pair.2.holdsLong

/-- What stands against an entry: an integer without a text, or else a value that is not there or a property text that
cannot be read. -/
def foreseen (e : Entry) : Option EntryFault :=
  if e.holdsLong then some (.argument .integerTooLong)
  else if e.kind.isSingle && e.valueIsNull then some (.valueMissing e.kind)
  else
    match e.kind, e.properties.map Properties.parse with
    | .properties, some (.error f) => some (.argument (.properties f))
    | _, _ => none

/-- The error that is reported on the entry. -/
def foreseenError (e : Entry) : Option Text :=
  e.foreseen.map fun f => "Argument '" ++ e.label ++ "': " ++ f.message

variable (s : Macro.Scope) (e : Entry)

theorem valueIsNull_iff : e.valueIsNull = true ↔ e.value = .null := by
  unfold valueIsNull
  cases e.value <;> simp

theorem fault_pairArguments :
    (e.pairArguments s).fault =
      if e.pairs.toList.any fun pair => pair.2.holdsLong then some (.argument .integerTooLong) else none := by
  rw [pairArguments, Attempt.fault_map, Attempt.fault_inOrder]
  simp only [expandPair, Attempt.fault_map, Value.fault_expand]
  induction e.pairs.toList with
  | nil => rfl
  | cons pair pairs ih =>
      rw [List.findSome?_cons, ih, List.any_cons]
      cases h : pair.2.holdsLong with
      | true => rfl
      | false => rw [Bool.false_or, if_neg Bool.false_ne_true]

theorem fault_propertyArguments :
    (e.propertyArguments s).fault =
      match e.properties.map Properties.parse with
      | some (.error f) => some (.argument (.properties f))
      | _ => none := by
  unfold propertyArguments
  cases e.properties with
  | none => rfl
  | some t =>
      cases hp : Properties.parse t <;>
        simp [Invocation.propertyArguments, hp, Except.map, Attempt.fault, Attempt.fail]

/-- What becomes of an entry whose value has a text, or is not there. -/
theorem fault_argumentsFor {value : Option Text} (hv : e.value.holdsLong = false)
    (h : (e.value.expand s).result = .ok value) :
    (e.argumentsFor s value).fault = e.foreseen := by
  have hnone : value = none ↔ e.valueIsNull = true := by
    rw [valueIsNull_iff, ← Value.expand_eq_none s, h]
    simp
  cases hk : e.kind with
  | plain | quoted | masked =>
      cases value <;> simp_all [argumentsFor, foreseen, holdsLong, EntryKind.isSingle]
  | tokenized =>
      rw [foreseen, holdsLong, hv, hk]
      simp only [argumentsFor, hk]
      rfl
  | keyValue =>
      rw [foreseen, holdsLong, hv, hk]
      simp only [argumentsFor, hk, fault_pairArguments]
      rfl
  | properties =>
      rw [foreseen, holdsLong, hv, hk]
      simp only [argumentsFor, hk, fault_propertyArguments]
      rcases e.properties.map Properties.parse with _ | f | _ <;> rfl

theorem fault_attempt : (e.attempt s).fault = e.foreseen := by
  have hexpand := e.value.fault_expand s
  cases hv : e.value.holdsLong with
  | true =>
      rw [hv, if_pos rfl] at hexpand
      have hlong : e.holdsLong = true := by rw [holdsLong, hv, Bool.true_or]
      rw [attempt, Attempt.fault_andThen_of_fault hexpand, foreseen, if_pos hlong]
  | false =>
      rw [hv, if_neg Bool.false_ne_true] at hexpand
      obtain ⟨value, hvalue⟩ := Attempt.fault_eq_none_iff.mp hexpand
      rw [attempt, Attempt.fault_andThen_of_ok hvalue, e.fault_argumentsFor s hv hvalue]

theorem fault_resolve : (e.resolve s).fault = e.foreseen := by
  rw [← e.fault_attempt s]
  cases hr : (e.attempt s).result <;> simp [resolve, Attempt.fault, hr]

theorem errors_resolve : (e.resolve s).errors = e.foreseenError.toList := by
  rw [Resolved.errors, Resolved.error, fault_resolve, entry_resolve]
  rfl

/-- What is a problem of an entry keeps it from failing for any other reason than an integer that is too long. -/
theorem foreseen_eq_none {e : Entry} (hfields : e.fieldProblems = []) (hproperties : e.propertyProblems = [])
    (h : e.holdsLong = false) : e.foreseen = none := by
  have hvalue : (e.kind.isSingle && e.valueIsNull) = false := by
    unfold fieldProblems at hfields
    cases hs : e.kind.isSingle <;> cases hn : e.valueIsNull <;> simp_all
  rw [foreseen, h, hvalue]
  unfold propertyProblems at hproperties
  cases hk : e.kind <;> cases hp : e.properties <;> simp_all
  rename_i t
  cases ht : Properties.parse t <;> simp_all

end Entry

/-! ## Specifications -/

namespace Spec

theorem problems_eq_nil {s : Spec} {strict : Bool} (h : s.problems strict = []) {e : Entry} (he : e ∈ s.entries) :
    e.fieldProblems = [] ∧ e.propertyProblems = [] := by
  simp only [problems, fieldProblems, propertyProblems, List.append_eq_nil_iff, List.flatMap_eq_nil_iff] at h
  exact ⟨h.1.1.2 e he, h.1.2 e he⟩

/-- The errors of a build are those that can be foreseen of its entries, one for each entry that has one, wherever the
build is run. A specification without problems has none, unless an integer in it is too long. -/
theorem errors_build_foreseen (s : Spec) :
    (∀ scope windows,
      (s.build scope windows).resolved.map Resolved.errors = s.entries.map (fun e => e.foreseenError.toList) ∧
      (s.build scope windows).errors = s.entries.filterMap Entry.foreseenError) ∧
    ∀ strict, s.problems strict = [] → (∀ e ∈ s.entries, e.holdsLong = false) →
      ∀ scope windows, (s.build scope windows).errors = [] := by
  have herrors : ∀ scope windows, (s.build scope windows).errors = s.entries.filterMap Entry.foreseenError := by
    intro scope windows
    rw [Build.errors, resolved_build, List.flatMap_map, List.filterMap_eq_flatMap_toList Entry.foreseenError]
    simp only [Entry.errors_resolve]
  refine ⟨fun scope windows => ⟨?_, herrors scope windows⟩, fun strict hproblems hlong scope windows => ?_⟩
  · rw [resolved_build, List.map_map]
    exact List.map_congr_left fun e _ => e.errors_resolve scope
  · rw [herrors, List.filterMap_eq_nil_iff]
    intro e he
    obtain ⟨hfields, hproperties⟩ := problems_eq_nil hproblems he
    rw [Entry.foreseenError, Entry.foreseen_eq_none hfields hproperties (hlong e he)]
    rfl

/-- A long integer deep inside of a value that is not used, a secret that is not there, and a property text that
breaks off. -/
def flawedEntries : List Entry :=
  [.ofValue .keyValue (.list [.pair .null (.int (-10 ^ 4300))]) false,
    .ofValue .masked .null true,
    { Entry.ofValue .properties .null false with properties := some "a=b\nc=\\u12" }]

/-- A reference without a value is no error. -/
theorem errors_build_foreseen_login :
    ((loginWith [.ofValue .plain (.text "$nobody") false]).build .bare true).errors = [] ∧
    ((loginWith flawedEntries).build .bare true).errors =
      [Text.ofString "Argument 'key_value': " ++ integerLimitMessage,
        Text.ofString "Argument 'masked': a value is required for kind 'masked'",
        Text.ofString "Argument 'properties': Malformed \\uxxxx encoding (line 2)"] := by
  have hforeseen := (errors_build_foreseen (loginWith flawedEntries)).1 .bare true
  exact ⟨(errors_build_foreseen (loginWith [.ofValue .plain (.text "$nobody") false])).2 false (by decide +kernel)
    (by decide +kernel) .bare true, hforeseen.2.trans (by decide +kernel)⟩

end Spec

end Invocation
