import Mathlib.Data.List.Forall2
import Invocation.Proofs.Build.Foreseen
import Invocation.Proofs.Build.Layout

/-!
# Hiding and running

What is hidden of a command line is a matter of how it is shown. What is run, and what is warned about and reported on
the way to it, is the same whatever is hidden.
-/

namespace Invocation

/-! ## Kinds in messages -/

/-- The fault as an entry of the kind `k` meets it. -/
def EntryFault.ofKind (k : EntryKind) : EntryFault → EntryFault
  | valueMissing _ => valueMissing k
  | argument f => argument f

/-- The errors with the name of the kind `k` in place of that of the entry. -/
def Resolved.errorsNaming (k : EntryKind) (r : Resolved) : List Text :=
  ({ r with entry := { r.entry with kind := k }, fault := r.fault.map (EntryFault.ofKind k) } : Resolved).errors

theorem Entry.foreseen_ofKind (e : Entry) : e.foreseen.map (EntryFault.ofKind e.kind) = e.foreseen := by
  unfold foreseen
  split
  · rfl
  · split
    · rfl
    · split <;> rfl

/-! ## Attempts -/

namespace Attempt

variable {k : EntryKind}

/-- An attempt without the note what is secret, with its fault as an entry of the kind `k` meets it. -/
def unmarked (k : EntryKind) (a : Attempt Arguments) : Attempt (List Text) :=
  ⟨a.warnings, (a.result.map Arguments.values).mapError (EntryFault.ofKind k)⟩

theorem unmarked_andThen {α : Type} {a : Attempt α} {next next' : α → Attempt Arguments}
    (h : ∀ x, (next x).unmarked k = (next' x).unmarked k) :
    (a.andThen next).unmarked k = (a.andThen next').unmarked k := by
  cases hr : a.result with
  | error f => simp only [andThen, hr, unmarked, Except.map]
  | ok x =>
      have hx := h x
      simp only [unmarked, Attempt.mk.injEq] at hx
      simp only [andThen, hr, unmarked, hx.1, hx.2]

theorem unmarked_map {α : Type} {a : Attempt α} {f g : α → Arguments} (h : ∀ x, (f x).values = (g x).values) :
    (a.map f).unmarked k = (a.map g).unmarked k := by
  cases hr : a.result <;> simp only [map, hr, unmarked, Except.map, h]

variable {a a' : Attempt Arguments}

theorem values_added_eq (h : a.unmarked k = a'.unmarked k) : a.added.values = a'.added.values := by
  have hresult := congrArg result h
  cases hr : a.result <;> cases hr' : a'.result <;> simp_all [unmarked, added, Except.map, Except.mapError]

theorem fault_ofKind_eq (h : a.unmarked k = a'.unmarked k) :
    a.fault.map (EntryFault.ofKind k) = a'.fault.map (EntryFault.ofKind k) := by
  have hresult := congrArg result h
  cases hr : a.result <;> cases hr' : a'.result <;> simp_all [unmarked, fault, Except.map, Except.mapError]

end Attempt

/-! ## Entries -/

/-- The kind of an argument that is not hidden. -/
def EntryKind.unmasked : EntryKind → EntryKind
  | masked => plain
  | k => k

namespace Entry

/-- The entry with nothing hidden. -/
def unhidden (e : Entry) : Entry := { e with kind := e.kind.unmasked, sensitive := false }

section unmarked

variable (e : Entry) (s : Macro.Scope) (k : EntryKind)

theorem values_marked {α : Type} (f : α → Text) (secret : Bool) (xs : List α) :
    Arguments.values (xs.map fun x => ⟨f x, secret⟩) = xs.map f := by
  simp [Arguments.values]

theorem unmarked_propertyArguments :
    (e.propertyArguments s).unmarked k = (e.unhidden.propertyArguments s).unmarked k := by
  simp only [propertyArguments, unhidden]
  cases e.properties with
  | none => rfl
  | some t =>
      cases hp : Properties.parse t <;>
        simp [Invocation.propertyArguments, hp, Except.map, Attempt.unmarked, Attempt.fail, Arguments.values,
          Function.comp_def]

/-- Each kind notes in its own place what is secret. -/
theorem unmarked_argumentsFor (value : Option Text) :
    (e.argumentsFor s value).unmarked k = (e.unhidden.argumentsFor s value).unmarked k := by
  cases hk : e.kind with
  | plain | quoted | masked =>
      cases value <;> simp only [argumentsFor, unhidden, EntryKind.unmasked, hk] <;> rfl
  | tokenized =>
      simp only [argumentsFor, unhidden, EntryKind.unmasked, hk, Attempt.unmarked, Attempt.done, Except.map,
        values_marked]
  | keyValue =>
      simp only [argumentsFor, unhidden, EntryKind.unmasked, hk]
      exact Attempt.unmarked_map fun pairs => by simp only [values_marked]
  | properties =>
      have hproperties := e.unmarked_propertyArguments s k
      simpa only [argumentsFor, unhidden, EntryKind.unmasked, hk] using hproperties

theorem unmarked_attempt : (e.attempt s).unmarked k = (e.unhidden.attempt s).unmarked k :=
  Attempt.unmarked_andThen (e.unmarked_argumentsFor s k)

end unmarked

theorem arguments_resolve (s : Macro.Scope) (e : Entry) : (e.resolve s).arguments = (e.attempt s).added := by
  cases hr : (e.attempt s).result <;> simp [resolve, Attempt.added, hr]

end Entry

/-- Two outcomes with the same arguments to run and the same warnings, and with the same errors but for the names of
kinds in them. -/
structure Resolved.RunsAs (r r' : Resolved) : Prop where
  values : r'.arguments.values = r.arguments.values
  warnings : r'.warnings = r.warnings
  errors : r'.errors = r.errorsNaming r'.entry.kind

theorem Entry.runsAs_resolve {e e' : Entry} (h : e'.unhidden = e.unhidden) (s : Macro.Scope) :
    (e.resolve s).RunsAs (e'.resolve s) := by
  have hunmarked (k : EntryKind) : (e'.attempt s).unmarked k = (e.attempt s).unmarked k := by
    rw [e'.unmarked_attempt, h, ← e.unmarked_attempt]
  have hname : e'.unhidden.name = e.unhidden.name := congrArg name h
  refine ⟨?_, ?_, ?_⟩
  · rw [arguments_resolve, arguments_resolve]
    exact Attempt.values_added_eq (hunmarked e.kind)
  · rw [warnings_resolve, warnings_resolve]
    exact (Attempt.mk.inj (hunmarked e.kind)).1
  · have hfault := Attempt.fault_ofKind_eq (hunmarked e'.kind)
    rw [fault_attempt, fault_attempt, foreseen_ofKind] at hfault
    simp only [unhidden] at hname
    simp [Resolved.errors, Resolved.errorsNaming, Resolved.error, fault_resolve, hfault, label, hname]

/-! ## Builds -/

namespace Resolved

variable {rs rs' : List Resolved}

/-- What is the same for outcomes that run alike is the same all along their entries. -/
theorem flatMap_eq_of_runsAs {α : Type} (f : Resolved → List α) (h : List.Forall₂ RunsAs rs rs')
    (hf : ∀ {r r'}, RunsAs r r' → f r' = f r) : rs'.flatMap f = rs.flatMap f := by
  induction h with
  | nil => rfl
  | cons hr _ ih => rw [List.flatMap_cons, List.flatMap_cons, hf hr, ih]

theorem flatMap_errors_of_runsAs (h : List.Forall₂ RunsAs rs rs') :
    rs'.flatMap errors = (List.zipWith errorsNaming (rs'.map fun r => r.entry.kind) rs).flatten := by
  induction h with
  | nil => rfl
  | cons hr _ ih =>
      rw [List.flatMap_cons, hr.errors, ih]
      rfl

end Resolved

/-- Two builds of which the same is run, with the same warnings, and with the same errors but for the names of kinds in
them. -/
structure Build.RunsAs (b b' : Build) : Prop where
  values : b'.arguments.values = b.arguments.values
  windows : b'.windows = b.windows
  warnings : b'.warnings = b.warnings
  errors : b'.errors = (List.zipWith Resolved.errorsNaming (b'.resolved.map fun r => r.entry.kind) b.resolved).flatten
  resolved : List.Forall₂ Resolved.RunsAs b.resolved b'.resolved

namespace Spec

theorem values_build_windows (s : Spec) (scope : Macro.Scope) :
    (s.build scope true).arguments.values =
      [Shell.executable, Shell.switch, (Shell.commandText (s.build scope false).arguments.values).inQuotes] :=
  Shell.values_wrapHiding _

theorem warnings_build_resolved (s : Spec) (scope : Macro.Scope) (windows : Bool) :
    (s.build scope windows).warnings = s.buildWarnings scope (s.build scope windows).resolved := by
  simp [build]

theorem runsAs_resolved {s : Spec} {es : List Entry} (h : es.map Entry.unhidden = s.entries.map Entry.unhidden)
    (scope : Macro.Scope) (windows : Bool) :
    List.Forall₂ Resolved.RunsAs (s.build scope windows).resolved
      ({ s with entries := es }.build scope windows).resolved := by
  have hentries : List.Forall₂ (fun e e' : Entry => e'.unhidden = e.unhidden) s.entries es := by
    have heq : List.Forall₂ Eq (s.entries.map Entry.unhidden) (es.map Entry.unhidden) := by
      rw [List.forall₂_eq_eq_eq, h]
    rw [List.forall₂_map_left_iff, List.forall₂_map_right_iff] at heq
    exact heq.imp fun _ _ => Eq.symm
  rw [resolved_build, resolved_build, List.forall₂_map_left_iff, List.forall₂_map_right_iff]
  exact hentries.imp fun e e' he => Entry.runsAs_resolve he scope

/-- Whatever is hidden or not, by the flags of entries or by their kinds, the same command is run, with the same
warnings and the same errors, whether it is wrapped or not. -/
theorem build_runsAs {s : Spec} {es : List Entry} (h : es.map Entry.unhidden = s.entries.map Entry.unhidden)
    (scope : Macro.Scope) (windows : Bool) :
    (s.build scope windows).RunsAs ({ s with entries := es }.build scope windows) := by
  have hplain : ({ s with entries := es }.build scope false).arguments.values =
      (s.build scope false).arguments.values := by
    rw [values_build, values_build]
    exact congrArg _ (Resolved.flatMap_eq_of_runsAs _ (runsAs_resolved h scope false) fun hr => hr.values)
  have hresolved := runsAs_resolved h scope windows
  refine ⟨?_, rfl, ?_, Resolved.flatMap_errors_of_runsAs hresolved, hresolved⟩
  · cases windows with
    | false => exact hplain
    | true => rw [values_build_windows, values_build_windows, hplain]
  · have hwarnings := Resolved.flatMap_eq_of_runsAs _ hresolved fun hr => hr.warnings
    rw [warnings_build_resolved, warnings_build_resolved, buildWarnings, hwarnings]
    rfl

/-- A secret, a secret that is not there, and two texts of which the first is to be quoted and the second cut. -/
def openEntries : List Entry :=
  [.ofValue .plain (.text "pa$word") false, .ofValue .plain .null true, .ofValue .quoted (.text "a b") false,
    .ofValue .tokenized (.text " -x  -y ") false]

def hiddenEntries : List Entry :=
  [.ofValue .masked (.text "pa$word") false, .ofValue .masked .null false, .ofValue .quoted (.text "a b") true,
    .ofValue .tokenized (.text " -x  -y ") true]

theorem build_runsAs_hidden :
    hiddenEntries.map Entry.unhidden = openEntries.map Entry.unhidden ∧
    ((loginWith openEntries).build .bare true).RunsAs ((loginWith hiddenEntries).build .bare true) ∧
    ((loginWith openEntries).build .bare true).errors =
      [Text.ofString "Argument 'plain': a value is required for kind 'plain'"] ∧
    ((loginWith hiddenEntries).build .bare true).errors =
      [Text.ofString "Argument 'masked': a value is required for kind 'masked'"] := by
  have hsame : hiddenEntries.map Entry.unhidden = (loginWith openEntries).entries.map Entry.unhidden := rfl
  exact ⟨rfl, build_runsAs hsame .bare true, by decide +kernel, by decide +kernel⟩

end Spec

end Invocation
