import Invocation.Proofs.Build.Assembly
import Invocation.Proofs.Build.Failure
import Invocation.Proofs.Macro.References

/-!
# What warnings tell

The warnings of a build come from the references in its templates. They tell which of them have no value, also those in
the templates of a secret entry.
-/

namespace Invocation

open Macro

variable {s : Scope}

/-! ## Templates -/

/-- A value is expanded only if it is a text. -/
def Value.templates : Value → List Text
  | text t => [t]
  | _ => []

theorem Value.warnings_expand (v : Value) :
    (v.expand s).warnings = v.templates.flatMap fun t => (s.expand t).warnings := by
  cases v with
  | null => rfl
  | text t => simp [Value.expand, templates, Attempt.ofExpansion, Attempt.map]
  | _ =>
      simp only [Value.expand]
      split <;> rfl

/-- The templates among the values, up to the first value that has no text. -/
def Value.templatesUntilFault (vs : List Value) : List Text :=
  (vs.takeWhile fun v => v.text?.isSome).flatMap templates

theorem Value.templates_eq_nil {v : Value} (h : v.text? = none) : v.templates = [] := by
  cases v <;> simp_all [templates, text?]

theorem Value.templatesUntilFault_cons (v : Value) (vs : List Value) :
    templatesUntilFault (v :: vs) = if v.text? = none then [] else v.templates ++ templatesUntilFault vs := by
  cases h : v.text? <;> simp [templatesUntilFault, h]

theorem Value.templatesUntilFault_eq {vs : List Value} (h : ∀ v ∈ vs, v.text? ≠ none) :
    templatesUntilFault vs = vs.flatMap templates := by
  induction vs with
  | nil => rfl
  | cons v vs ih =>
      obtain ⟨hv, hvs⟩ := List.forall_mem_cons.mp h
      rw [templatesUntilFault_cons, if_neg hv, ih hvs, List.flatMap_cons]

theorem Attempt.warnings_andThen_of_fails {α β : Type} {a : Attempt α} {next : α → Attempt β} (h : a.Fails) :
    (a.andThen next).warnings = a.warnings := by
  obtain ⟨f, hf⟩ := h
  simp [andThen, hf]

namespace Entry

def pairTemplates (e : Entry) : List Text := e.pairs.toList.flatMap fun pair => pair.2.templates

/-- The values in the property text of an entry, if it has one that can be read. -/
def propertyTemplates (e : Entry) : List Text :=
  match e.properties.map Properties.parse with
  | some (.ok entries) => entries.toList.map Prod.snd
  | _ => []

/-- What is expanded for an entry, in order. Only two kinds make use of more than the value. -/
def templates (e : Entry) : List Text :=
  match e.kind with
  | .keyValue => e.value.templates ++ e.pairTemplates
  | .properties => e.value.templates ++ e.propertyTemplates
  | _ => e.value.templates

/-- What is expanded for an entry, in order, up to what stands against it. -/
def expandedTemplates (e : Entry) : List Text :=
  match e.kind with
  | .keyValue => Value.templatesUntilFault (e.value :: e.pairs.toList.map Prod.snd)
  | .properties => if e.value.text? = none then [] else e.value.templates ++ e.propertyTemplates
  | _ => e.value.templates

/-- The names that an entry refers to, in the order in which they are looked up. -/
def references (e : Entry) : List Text := e.templates.flatMap Macro.references

variable {e : Entry}

theorem warnings_propertyArguments (s : Scope) (e : Entry) :
    (e.propertyArguments s).warnings = e.propertyTemplates.flatMap fun t => (s.expand t).warnings := by
  unfold propertyArguments propertyTemplates
  cases e.properties with
  | none => rfl
  | some text =>
      cases hp : Properties.parse text with
      | error f => simp [Invocation.propertyArguments, hp, Except.map, Attempt.fail]
      | ok entries =>
          simp [Invocation.propertyArguments, hp, Except.map, List.flatMap_map]

theorem warnings_inOrder_expandPair (pairs : List (Text × Value)) :
    (Attempt.inOrder (expandPair s) pairs).warnings =
      (Value.templatesUntilFault (pairs.map Prod.snd)).flatMap fun t => (s.expand t).warnings := by
  induction pairs with
  | nil => rfl
  | cons pair pairs ih =>
      have hpair : (expandPair s pair).warnings = pair.2.templates.flatMap fun t => (s.expand t).warnings :=
        Value.warnings_expand pair.2
      rw [Attempt.inOrder, List.map_cons, Value.templatesUntilFault_cons]
      cases ht : pair.2.text? with
      | none =>
          have hfails : (expandPair s pair).Fails := Attempt.fails_map.mpr ((Value.fails_expand s _).mpr ht)
          simp [Attempt.warnings_andThen_of_fails hfails, hpair, Value.templates_eq_nil ht]
      | some t =>
          have hok : ¬(expandPair s pair).Fails := by simp [expandPair, Attempt.fails_map, Value.fails_expand, ht]
          obtain ⟨y, hr⟩ := Attempt.exists_ok_of_not_fails hok
          rw [Attempt.warnings_andThen hr, hpair]
          simpa [Attempt.map] using ih

theorem warnings_attempt : (e.attempt s).warnings = e.expandedTemplates.flatMap fun t => (s.expand t).warnings := by
  have hvalue := Value.warnings_expand (s := s) e.value
  cases ht : e.value.text? with
  | none =>
      rw [attempt, Attempt.warnings_andThen_of_fails ((Value.fails_expand s _).mpr ht), hvalue]
      cases hk : e.kind <;> simp [expandedTemplates, hk, Value.templatesUntilFault_cons, ht, Value.templates_eq_nil ht]
  | some t =>
      have hok : ¬(e.value.expand s).Fails := by simp [Value.fails_expand, ht]
      obtain ⟨value, hr⟩ := Attempt.exists_ok_of_not_fails hok
      rw [attempt, Attempt.warnings_andThen hr, hvalue]
      cases hk : e.kind with
      | plain | quoted | masked =>
          cases value <;> simp [argumentsFor, expandedTemplates, hk, Attempt.done, Attempt.fail]
      | tokenized => simp [argumentsFor, expandedTemplates, hk, Attempt.done]
      | keyValue =>
          have hpairs := warnings_inOrder_expandPair (s := s) e.pairs.toList
          simp [argumentsFor, expandedTemplates, hk, pairArguments, Attempt.map, hpairs,
            Value.templatesUntilFault_cons, ht]
      | properties => simp [argumentsFor, expandedTemplates, hk, warnings_propertyArguments, ht]

theorem expandedTemplates_of_not_fails (h : ¬e.Fails) : e.expandedTemplates = e.templates := by
  have hvalue : e.value.text? ≠ none := fun hv => h (.value hv)
  cases hk : e.kind with
  | plain | quoted | masked | tokenized => simp [expandedTemplates, templates, hk]
  | keyValue =>
      have hpairs : ∀ v ∈ e.pairs.toList.map Prod.snd, v.text? ≠ none := by
        intro v hv ht
        obtain ⟨pair, hpair, rfl⟩ := List.mem_map.mp hv
        exact h (.pair hk hpair ht)
      have hall := Value.templatesUntilFault_eq (List.forall_mem_cons.mpr ⟨hvalue, hpairs⟩)
      simp only [expandedTemplates, templates, hk, hall, pairTemplates, List.flatMap_cons, List.flatMap_map]
  | properties => simp [expandedTemplates, templates, hk, hvalue]

/-- An entry that succeeds is warned about for each name without a value that it refers to, and for nothing else. -/
theorem warnings_resolve_of_fault (h : (e.resolve s).fault = none) :
    (e.resolve s).warnings = e.references.filterMap s.complaint? := by
  have hfails : ¬e.Fails := by
    rw [← fails_attempt s, Attempt.Fails, attempt_of_fault h]
    simp
  rw [warnings_resolve, warnings_attempt, expandedTemplates_of_not_fails hfails, references, List.filterMap_flatMap]
  simp only [Scope.warnings_expand]

end Entry

/-! ## Builds -/

/-- Two entries in one place lead to the same warnings exactly if the names without a value are the same in both. -/
theorem Spec.warnings_build_eq_iff (spec : Spec) (windows : Bool) (before after : List Entry) {e e' : Entry}
    (h : (e.resolve s).fault = none) (h' : (e'.resolve s).fault = none) :
    ({ spec with entries := before ++ e :: after }.build s windows).warnings.map Warning.message =
        ({ spec with entries := before ++ e' :: after }.build s windows).warnings.map Warning.message ↔
      s.unresolved e.references = s.unresolved e'.references := by
  rw [← Scope.complaints_eq_iff, ← Entry.warnings_resolve_of_fault h, ← Entry.warnings_resolve_of_fault h']
  simp [build, buildWarnings]

/-- The one masked argument `text`. -/
def Entry.masked (text : Text) : Entry where
  name := none
  kind := .masked
  value := .text text
  lead := defaultLead
  pairs := ∅
  properties := none
  sensitive := false

def Spec.login : Spec where
  version := "1"
  command := ["login"]
  prepend := []
  windows := false
  assignments := ∅
  providers := []
  entries := []

/-- An entry that is made of its value. -/
def Entry.ofValue (kind : EntryKind) (value : Value) (sensitive : Bool) : Entry where
  name := none
  kind
  value
  lead := defaultLead
  pairs := ∅
  properties := none
  sensitive

def Spec.loginWith (entries : List Entry) : Spec := { login with entries }

def Macro.Scope.bare : Scope := ⟨⟨∅, default, 1, "/root"⟩, ∅⟩

theorem Spec.warnings_build_login :
    ({ Spec.login with entries := [.masked "pa$word"] }.build .bare true).warnings.map Warning.message =
        ({ Spec.login with entries := [.masked "$word+pass"] }.build .bare true).warnings.map Warning.message ↔
      Scope.bare.unresolved (Entry.masked "pa$word").references =
        Scope.bare.unresolved (Entry.masked "$word+pass").references :=
  Spec.warnings_build_eq_iff .login true [] [] (by decide +kernel) (by decide +kernel)

/-- A secret that holds a dollar sign shows through: what follows the sign is named in a warning. -/
theorem Spec.secret_in_warnings :
    ¬ ∀ (spec : Spec) (s : Scope) (windows : Bool) (before after : List Entry) (e e' : Entry),
      e' = { e with value := e'.value, pairs := e'.pairs, properties := e'.properties } → e.isSecret = true →
      (e.resolve s).fault = none → (e'.resolve s).fault = none →
      (e.resolve s).arguments.length = (e'.resolve s).arguments.length →
      ({ spec with entries := before ++ e :: after }.build s windows).warnings.map Warning.message =
        ({ spec with entries := before ++ e' :: after }.build s windows).warnings.map Warning.message := by
  intro h
  have hsame := h .login .bare false [] [] (.masked "pa$word") (.masked "password") rfl rfl (by decide +kernel)
    (by decide +kernel) (by decide +kernel)
  revert hsame
  decide +kernel

end Invocation
