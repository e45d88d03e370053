import Invocation.Build.Entry

/-!
# What an entry adds

What an entry adds does not depend on the draft that it is applied to, so it can be told without one: all of its
arguments or, if something stands against it, none. All that an entry adds is secret or nothing of it, as the entry
says.
-/

namespace Invocation

/-! ## Attempts -/

namespace Attempt

variable {α β : Type} {a : Attempt α} {next : α → Attempt β}

/-- The arguments that come of an attempt, none if it fails. -/
def added (a : Attempt Arguments) : Arguments :=
  match a.result with
  | .ok as => as
  | .error _ => []

theorem result_map_eq_ok {f : α → β} {y : β} : (a.map f).result = .ok y ↔ ∃ x, a.result = .ok x ∧ f x = y := by
  cases h : a.result <;> simp [map, Except.map, h]

theorem result_andThen_eq_ok {y : β} :
    (a.andThen next).result = .ok y ↔ ∃ x, a.result = .ok x ∧ (next x).result = .ok y := by
  cases h : a.result <;> simp [andThen, h]

theorem andThen_done (f : α → β) : (a.andThen fun x => done (f x)) = a.map f := by
  cases a with
  | mk warnings result => cases result <;> simp [andThen, map, done, Except.map]

theorem warnings_andThen {x : α} (h : a.result = .ok x) :
    (a.andThen next).warnings = a.warnings ++ (next x).warnings := by
  simp [andThen, h]

end Attempt

/-! ## Entries -/

namespace Entry

/-- The arguments of the pairs of the entry. -/
def pairArguments (s : Macro.Scope) (e : Entry) : Attempt Arguments :=
  (Attempt.inOrder (expandPair s) e.pairs.toList).map fun pairs =>
    pairs.map fun pair => ⟨pairText e.lead pair.1 pair.2, e.isSecret⟩

/-- The arguments of the property text of the entry, if it has one. -/
def propertyArguments (s : Macro.Scope) (e : Entry) : Attempt Arguments :=
  match e.properties with
  | none => .done []
  | some text =>
    match Invocation.propertyArguments e.lead (.macros s) e.isSecret text with
    | .ok (arguments, warnings) => ⟨warnings, .ok arguments⟩
    | .error f => .fail (.argument (.properties f))

/-- The arguments of an entry whose value has the text `value`. -/
def argumentsFor (s : Macro.Scope) (e : Entry) (value : Option Text) : Attempt Arguments :=
  match e.kind, value with
  | .plain, some t | .masked, some t => .done [⟨t, e.isSecret⟩]
  | .quoted, some t => .done [⟨t.inQuotes, e.isSecret⟩]
  | .plain, none | .masked, none | .quoted, none => .fail (.valueMissing e.kind)
  | .tokenized, t => .done ((tokensOf t).map fun token => ⟨token, e.isSecret⟩)
  | .keyValue, _ => e.pairArguments s
  | .properties, _ => e.propertyArguments s

/-- The value is expanded for every kind of entry, also for those that make no use of it. -/
def attempt (s : Macro.Scope) (e : Entry) : Attempt Arguments := (e.value.expand s).andThen (e.argumentsFor s)

end Entry

/-- An entry with what becomes of it. -/
def Entry.resolve (s : Macro.Scope) (e : Entry) : Resolved :=
  let a := e.attempt s
  match a.result with
  | .ok arguments => ⟨e, arguments, a.warnings, none⟩
  | .error f => ⟨e, [], a.warnings, some f⟩

namespace Entry

variable {s : Macro.Scope} {e : Entry} {as : Arguments}

@[simp] theorem entry_resolve (s : Macro.Scope) (e : Entry) : (e.resolve s).entry = e := by
  unfold resolve
  cases h : (e.attempt s).result <;> simp [h]

theorem warnings_resolve (s : Macro.Scope) (e : Entry) : (e.resolve s).warnings = (e.attempt s).warnings := by
  unfold resolve
  cases h : (e.attempt s).result <;> simp [h]

/-- An entry without a fault has succeeded with the arguments that it adds. -/
theorem attempt_of_fault (h : (e.resolve s).fault = none) : (e.attempt s).result = .ok (e.resolve s).arguments := by
  unfold resolve at h ⊢
  cases hr : (e.attempt s).result <;> simp_all

theorem arguments_of_fault (h : (e.resolve s).fault ≠ none) : (e.resolve s).arguments = [] := by
  unfold resolve at h ⊢
  cases hr : (e.attempt s).result <;> simp_all

theorem secret_of_propertyArguments (h : (e.propertyArguments s).result = .ok as) :
    ∀ a ∈ as, a.secret = e.isSecret := by
  unfold propertyArguments at h
  split at h
  · cases h
    simp
  · rename_i text _
    cases hp : Properties.parse text with
    | error f => simp [Invocation.propertyArguments, hp, Except.map, Attempt.fail] at h
    | ok entries =>
        simp only [Invocation.propertyArguments, hp, Except.map, Except.ok.injEq] at h
        rintro a ha
        obtain ⟨entry, -, rfl⟩ := List.mem_map.mp (h ▸ ha)
        rfl

/-- Each kind of entry marks what it adds in its own place. -/
theorem secret_of_argumentsFor {value : Option Text} (h : (e.argumentsFor s value).result = .ok as) :
    ∀ a ∈ as, a.secret = e.isSecret := by
  intro a ha
  cases hk : e.kind with
  | plain | masked | quoted =>
      cases value <;> simp [argumentsFor, hk, Attempt.done, Attempt.fail] at h
      simp [← h] at ha
      simp [ha]
  | tokenized =>
      simp only [argumentsFor, hk, Attempt.done, Except.ok.injEq] at h
      obtain ⟨token, -, rfl⟩ := List.mem_map.mp (h ▸ ha)
      rfl
  | keyValue =>
      simp only [argumentsFor, hk, pairArguments] at h
      obtain ⟨pairs, -, rfl⟩ := Attempt.result_map_eq_ok.mp h
      obtain ⟨pair, -, rfl⟩ := List.mem_map.mp ha
      rfl
  | properties =>
      simp only [argumentsFor, hk] at h
      exact secret_of_propertyArguments h a ha

/-- All that an entry adds is secret if the entry is, and else nothing of it. -/
theorem secret_of_mem_arguments {a : Argument} (h : a ∈ (e.resolve s).arguments) : a.secret = e.isSecret := by
  by_cases hf : (e.resolve s).fault = none
  · obtain ⟨value, -, hv⟩ := Attempt.result_andThen_eq_ok.mp (attempt_of_fault hf)
    exact secret_of_argumentsFor hv a h
  · simp [arguments_of_fault hf] at h

end Entry

end Invocation
