import Invocation.Proofs.Build.Draft
import Invocation.Proofs.Properties.Malformed

/-!
# Entries that fail

An entry fails if a value that it needs has no text or is not there, or if its property text is malformed. Whichever
it is, and wherever in the entry, the entry is reported once and adds nothing.
-/

namespace Invocation

/-! ## Attempts -/

namespace Attempt

variable {α β : Type}

/-- What has kept an attempt from succeeding. -/
def fault (a : Attempt α) : Option EntryFault :=
  match a.result with
  | .ok _ => none
  | .error f => some f

@[simp] theorem fault_done (x : α) : (done x).fault = none := rfl

@[simp] theorem fault_fail (f : EntryFault) : (fail f : Attempt α).fault = some f := rfl

@[simp] theorem fault_map (f : α → β) (a : Attempt α) : (a.map f).fault = a.fault := by
  cases h : a.result <;> simp [fault, map, Except.map, h]

theorem fault_andThen_of_ok {a : Attempt α} {x : α} (h : a.result = .ok x) (next : α → Attempt β) :
    (a.andThen next).fault = (next x).fault := by
  simp [fault, andThen, h]

theorem fault_andThen_of_fault {a : Attempt α} {f : EntryFault} (h : a.fault = some f) (next : α → Attempt β) :
    (a.andThen next).fault = some f := by
  cases hr : a.result <;> simp_all [fault, andThen]

theorem fault_eq_none_iff {a : Attempt α} : a.fault = none ↔ ∃ x, a.result = .ok x := by
  cases hr : a.result <;> simp [fault, hr]

/-- Of several attempts the first that fails counts. -/
theorem fault_inOrder (f : α → Attempt β) (xs : List α) : (inOrder f xs).fault = xs.findSome? fun x => (f x).fault := by
  induction xs with
  | nil => rfl
  | cons x xs ih =>
      rw [inOrder, List.findSome?_cons]
      cases hf : (f x).fault with
      | some g => exact fault_andThen_of_fault hf _
      | none =>
          obtain ⟨y, hy⟩ := fault_eq_none_iff.mp hf
          rw [fault_andThen_of_ok hy, fault_map, ih]

def Fails (a : Attempt α) : Prop := ∃ f, a.result = .error f

theorem fails_iff {a : Attempt α} : a.Fails ↔ a.fault.isSome := by
  cases hr : a.result <;> simp [Fails, fault, hr]

theorem not_fails_done (x : α) : ¬(done x).Fails := by
  simp [Fails, done]

theorem fails_fail (f : EntryFault) : (fail f : Attempt α).Fails := ⟨f, rfl⟩

theorem exists_ok_of_not_fails {a : Attempt α} (h : ¬a.Fails) : ∃ x, a.result = .ok x := by
  cases hr : a.result with
  | ok x => exact ⟨x, rfl⟩
  | error f => exact absurd ⟨f, hr⟩ h

theorem fails_map {f : α → β} {a : Attempt α} : (a.map f).Fails ↔ a.Fails := by
  rw [fails_iff, fails_iff, fault_map]

theorem fails_andThen {a : Attempt α} {next : α → Attempt β} :
    (a.andThen next).Fails ↔ a.Fails ∨ ∃ x, a.result = .ok x ∧ (next x).Fails := by
  cases h : a.result <;> simp [Fails, andThen, h]

theorem fails_inOrder {f : α → Attempt β} {xs : List α} : (inOrder f xs).Fails ↔ ∃ x ∈ xs, (f x).Fails := by
  simp only [fails_iff, fault_inOrder, List.isSome_findSome?, List.any_eq_true]

end Attempt

/-! ## Values -/

namespace Value

variable (s : Macro.Scope) (v : Value)

/-- What a value that is no text comes to does not depend on the scope. -/
theorem expand_eq_of_not_text (hn : v ≠ .null) (ht : ∀ t, v ≠ .text t) :
    v.expand s = match v.text? with
      | some t => .done (some t)
      | none => .fail (.argument .integerTooLong) := by
  cases v with
  | null => exact absurd rfl hn
  | text t => exact absurd rfl (ht t)
  | _ => rfl

theorem fails_expand : (v.expand s).Fails ↔ v.text? = none := by
  cases v with
  | null => simp [expand, text?, inner?, textWithin?, Attempt.not_fails_done]
  | text t =>
      rw [expand, Attempt.fails_map]
      simp [text?, Attempt.ofExpansion, Attempt.Fails]
  | _ =>
      rw [expand_eq_of_not_text s _ (by simp) (by simp)]
      split <;> simp_all [Attempt.not_fails_done, Attempt.fails_fail]

/-- Only a value that is not there has no text without failing. -/
theorem expand_eq_none : (v.expand s).result = .ok none ↔ v = .null := by
  cases v with
  | null => simp [expand, Attempt.done]
  | text t => simp [expand, Attempt.ofExpansion, Attempt.map, Except.map]
  | _ =>
      rw [expand_eq_of_not_text s _ (by simp) (by simp)]
      split <;> simp [Attempt.done, Attempt.fail]

end Value

/-! ## Entries -/

namespace Entry

variable (s : Macro.Scope) (e : Entry)

/-- What stands against an entry. -/
inductive Fails (e : Entry) : Prop where
  | value (h : e.value.text? = none)
  | missing (hk : e.kind.isSingle = true) (h : e.value = .null)
  | pair (hk : e.kind = .keyValue) {pair : Text × Value} (hp : pair ∈ e.pairs.toList) (h : pair.2.text? = none)
  | properties (hk : e.kind = .properties) {t : Text} (ht : e.properties = some t) (h : Properties.Malformed t)

theorem fails_pairArguments : (e.pairArguments s).Fails ↔ ∃ pair ∈ e.pairs.toList, pair.2.text? = none := by
  simp only [pairArguments, Attempt.fails_map, Attempt.fails_inOrder, expandPair, Value.fails_expand]

theorem fails_propertyArguments :
    (e.propertyArguments s).Fails ↔ ∃ t, e.properties = some t ∧ Properties.Malformed t := by
  cases hp : e.properties with
  | none => simp [propertyArguments, hp, Attempt.not_fails_done]
  | some t =>
      cases hr : Properties.parse t <;>
        simp [propertyArguments, Invocation.propertyArguments, hp, hr, Except.map, Attempt.Fails, Attempt.fail,
          Properties.malformed_iff]

theorem fails_argumentsFor (value : Option Text) :
    (e.argumentsFor s value).Fails ↔
      (e.kind.isSingle = true ∧ value = none) ∨
      (e.kind = .keyValue ∧ ∃ pair ∈ e.pairs.toList, pair.2.text? = none) ∨
      (e.kind = .properties ∧ ∃ t, e.properties = some t ∧ Properties.Malformed t) := by
  cases hk : e.kind with
  | plain | quoted | masked =>
      cases value <;> simp [argumentsFor, hk, EntryKind.isSingle, Attempt.not_fails_done, Attempt.fails_fail]
  | tokenized => simp [argumentsFor, hk, EntryKind.isSingle, Attempt.not_fails_done]
  | keyValue => simp [argumentsFor, hk, EntryKind.isSingle, fails_pairArguments]
  | properties => simp [argumentsFor, hk, EntryKind.isSingle, fails_propertyArguments]

theorem fails_attempt : (e.attempt s).Fails ↔ e.Fails := by
  rw [attempt, Attempt.fails_andThen, Value.fails_expand]
  simp only [fails_argumentsFor]
  constructor
  · rintro (h | ⟨value, hvalue, ⟨hk, rfl⟩ | ⟨hk, pair, hp, h⟩ | ⟨hk, t, ht, h⟩⟩)
    · exact .value h
    · exact .missing hk ((Value.expand_eq_none s _).mp hvalue)
    · exact .pair hk hp h
    · exact .properties hk ht h
  · intro h
    cases hr : (e.value.expand s).result with
    | error f => exact .inl ((Value.fails_expand s _).mp ⟨f, hr⟩)
    | ok value =>
        refine .inr ⟨value, rfl, ?_⟩
        cases h with
        | value h =>
            obtain ⟨f, hf⟩ := (Value.fails_expand s _).mpr h
            simp [hr] at hf
        | missing hk h =>
            have hnone := (Value.expand_eq_none s _).mpr h
            simp only [hr, Except.ok.injEq] at hnone
            exact .inl ⟨hk, hnone⟩
        | pair hk hp h => exact .inr (.inl ⟨hk, _, hp, h⟩)
        | properties hk ht h => exact .inr (.inr ⟨hk, _, ht, h⟩)

theorem errors_resolve_ne_nil_iff : (e.resolve s).errors ≠ [] ↔ e.Fails := by
  rw [← fails_attempt s]
  unfold resolve
  cases hr : (e.attempt s).result <;> simp [Resolved.errors, Resolved.error, Attempt.Fails, hr]

/-- An entry is applied as a whole or not at all, whatever the draft: the draft gets the arguments of the entry at its
end and nothing else, all of them are secret if the entry is and none otherwise, and there is at most one error. It
is there exactly if something stands against the entry, and then nothing has been added. -/
theorem apply_atomic (d : Draft) :
    let applied := e.apply.run d
    applied.1.entry = e ∧
    applied.2.arguments = d.arguments ++ applied.1.arguments ∧
    (∀ a ∈ applied.1.arguments, a.secret = e.isSecret) ∧
    applied.1.errors.length ≤ 1 ∧
    (applied.1.errors ≠ [] → applied.1.arguments = [] ∧ applied.2.arguments = d.arguments) ∧
    (applied.1.errors ≠ [] ↔ e.Fails) ∧
    applied.2.scope = d.scope ∧
    applied.2.warnings = d.warnings ++ applied.1.warnings := by
  simp only [run_apply]
  have hnone : (e.resolve d.scope).errors ≠ [] → (e.resolve d.scope).arguments = [] := by
    intro h
    refine arguments_of_fault fun hfault => h ?_
    simp [Resolved.errors, Resolved.error, hfault]
  refine ⟨entry_resolve _ e, rfl, fun a ha => secret_of_mem_arguments ha, ?_, fun h => ⟨hnone h, ?_⟩,
    errors_resolve_ne_nil_iff _ e, rfl, rfl⟩
  · rw [Resolved.errors, Option.length_toList]
    cases (e.resolve d.scope).error <;> simp
  · simp [hnone h]

end Entry

end Invocation
