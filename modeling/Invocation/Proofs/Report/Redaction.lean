import Mathlib.Data.List.Forall2
import Invocation.Proofs.Argument.Visible
import Invocation.Proofs.Build.Assembly
import Invocation.Proofs.Text.Basic
import Invocation.Report.Basic

/-!
# Reports hide secrets

Two runs whose secrets have nothing in common but their number look the same in every part of their reports, the
warnings apart.
-/

namespace Invocation

variable {scope₁ scope₂ : Macro.Scope}

/-! ## Entries -/

/-- Two entries that differ in their secrets only: what is no secret is the same, and of secrets there are as many. -/
structure Entry.Alike (scope₁ scope₂ : Macro.Scope) (e₁ e₂ : Entry) : Prop where
  name : e₁.name = e₂.name
  kind : e₁.kind = e₂.kind
  sensitive : e₁.sensitive = e₂.sensitive
  errors : (e₁.resolve scope₁).errors = (e₂.resolve scope₂).errors
  arguments : e₁.isSecret = false → (e₁.resolve scope₁).arguments = (e₂.resolve scope₂).arguments
  count : e₁.isSecret = true → (e₁.resolve scope₁).arguments.length = (e₂.resolve scope₂).arguments.length

namespace Entry.Alike

variable {e₁ e₂ : Entry}

theorem label_eq (h : Alike scope₁ scope₂ e₁ e₂) : e₁.label = e₂.label := by
  simp [Entry.label, h.name, h.kind]

theorem isSecret_eq (h : Alike scope₁ scope₂ e₁ e₂) : e₁.isSecret = e₂.isSecret := by
  simp [Entry.isSecret, h.sensitive, h.kind]

theorem error_eq (h : Alike scope₁ scope₂ e₁ e₂) : (e₁.resolve scope₁).error = (e₂.resolve scope₂).error := by
  simpa [Resolved.errors] using congrArg List.head? h.errors

theorem visible_arguments_eq (h : Alike scope₁ scope₂ e₁ e₂) :
    (e₁.resolve scope₁).arguments.visible = (e₂.resolve scope₂).arguments.visible := by
  cases hs : e₁.isSecret with
  | false => rw [h.arguments hs]
  | true =>
      have h₁ : ∀ a ∈ (e₁.resolve scope₁).arguments, a.secret = true := fun a ha =>
        (Entry.secret_of_mem_arguments ha).trans hs
      have h₂ : ∀ a ∈ (e₂.resolve scope₂).arguments, a.secret = true := fun a ha =>
        (Entry.secret_of_mem_arguments ha).trans (h.isSecret_eq ▸ hs)
      rw [Arguments.visible_of_secret h₁, Arguments.visible_of_secret h₂, h.count hs]

theorem shownValues_eq (h : Alike scope₁ scope₂ e₁ e₂) :
    (e₁.resolve scope₁).arguments.shownValues = (e₂.resolve scope₂).arguments.shownValues :=
  Arguments.shownValues_eq_of_visible h.visible_arguments_eq

theorem entryLine_eq (h : Alike scope₁ scope₂ e₁ e₂) :
    Report.entryLine (e₁.resolve scope₁) = Report.entryLine (e₂.resolve scope₂) := by
  simp [Report.entryLine, h.error_eq, h.shownValues_eq, h.label_eq, h.kind]

theorem entryJson_eq (h : Alike scope₁ scope₂ e₁ e₂) :
    Report.entryJson (e₁.resolve scope₁) = Report.entryJson (e₂.resolve scope₂) := by
  simp [Report.entryJson, h.errors, h.shownValues_eq, h.label_eq, h.kind, h.isSecret_eq]

end Entry.Alike

/-! ## Specifications -/

/-- Two specifications, each with its scope, that differ in their secrets only. -/
structure Spec.Alike (scope₁ scope₂ : Macro.Scope) (s₁ s₂ : Spec) : Prop where
  version : s₁.version = s₂.version
  windows : s₁.windows = s₂.windows
  command : s₁.command = s₂.command
  expandedCommand : (s₁.command.map fun t => (scope₁.expand t).text) = s₂.command.map fun t => (scope₂.expand t).text
  prepend : s₁.prepend = s₂.prepend
  expandedPrepend : (s₁.prepend.map fun t => (scope₁.expand t).text) = s₂.prepend.map fun t => (scope₂.expand t).text
  providers : s₁.providers = s₂.providers
  inlineCount : s₁.assignments.size = s₂.assignments.size
  count : scope₁.assignments.size = scope₂.assignments.size
  entries : List.Forall₂ (Entry.Alike scope₁ scope₂) s₁.entries s₂.entries

namespace Spec.Alike

variable {s₁ s₂ : Spec}

/-- What is the same for entries that are alike is the same all along the entries. -/
theorem map_resolved_eq {α : Type} (f : Resolved → α) (h : Alike scope₁ scope₂ s₁ s₂)
    (hf : ∀ {e₁ e₂}, Entry.Alike scope₁ scope₂ e₁ e₂ → f (e₁.resolve scope₁) = f (e₂.resolve scope₂)) :
    (s₁.entries.map (Entry.resolve scope₁)).map f = (s₂.entries.map (Entry.resolve scope₂)).map f := by
  have hmap {es₁ es₂ : List Entry} (hes : List.Forall₂ (Entry.Alike scope₁ scope₂) es₁ es₂) :
      (es₁.map (Entry.resolve scope₁)).map f = (es₂.map (Entry.resolve scope₂)).map f := by
    induction hes with
    | nil => simp only [List.map_nil]
    | cons he _ ih => simp only [List.map_cons, hf he, ih]
  exact hmap h.entries

theorem visible_plainArguments_eq (h : Alike scope₁ scope₂ s₁ s₂) :
    (s₁.plainArguments scope₁ (s₁.entries.map (Entry.resolve scope₁))).visible =
      (s₂.plainArguments scope₂ (s₂.entries.map (Entry.resolve scope₂))).visible := by
  have hentries := h.map_resolved_eq (fun r => r.arguments.visible) Entry.Alike.visible_arguments_eq
  have hexpanded (scope : Macro.Scope) (ts : List Text) :
      Arguments.visible (ts.map fun t => Argument.plain (scope.expand t).text) =
        (ts.map fun t => (scope.expand t).text).map some := by
    rw [← Arguments.visible_plain, List.map_map]
    rfl
  simp only [Spec.plainArguments, Arguments.visible_append, Arguments.visible_flatMap, hexpanded]
  rw [h.expandedPrepend, h.expandedCommand, List.flatMap_def, List.flatMap_def, hentries]

theorem visible_build_eq (h : Alike scope₁ scope₂ s₁ s₂) (windows : Bool) :
    (s₁.build scope₁ windows).arguments.visible = (s₂.build scope₂ windows).arguments.visible := by
  rw [Spec.arguments_build, Spec.arguments_build]
  cases windows with
  | false => exact h.visible_plainArguments_eq
  | true => exact Arguments.visible_wrapHiding h.visible_plainArguments_eq

theorem display_build_eq (h : Alike scope₁ scope₂ s₁ s₂) (windows : Bool) :
    (s₁.build scope₁ windows).display = (s₂.build scope₂ windows).display := by
  rw [Spec.display_build, Spec.display_build]
  cases windows with
  | false => exact Arguments.maskedDisplay_eq_of_visible h.visible_plainArguments_eq
  | true =>
      have hredacted := Arguments.redacted_eq_of_visible h.visible_plainArguments_eq
      exact congrArg (fun as => (Shell.wrap (Arguments.values as)).display) hredacted

theorem errors_build_eq (h : Alike scope₁ scope₂ s₁ s₂) (windows : Bool) :
    (s₁.build scope₁ windows).errors = (s₂.build scope₂ windows).errors := by
  have herrors := h.map_resolved_eq Resolved.errors Entry.Alike.errors
  simp only [Build.errors, Spec.resolved_build, List.flatMap_def, herrors]

theorem enabledProviders_eq (h : Alike scope₁ scope₂ s₁ s₂) : s₁.enabledProviders = s₂.enabledProviders :=
  congrArg (List.filter Provider.enabled) h.providers

end Spec.Alike

/-! ## JSON -/

/-- The value without what is at the end of a path of member names. -/
def Json.without : List String → Json → Json
  | [], j => j
  | [name], .object members => .object (members.filter fun m => m.1 ≠ Text.ofString name)
  | name :: path, .object members =>
    .object (members.map fun m => if m.1 = Text.ofString name then (m.1, m.2.without path) else m)
  | _ :: _, j => j

namespace Report

variable {r₁ r₂ : Report}

theorem json_without_warnings (r : Report) :
    r.json.without ["build", "warnings"] =
      .record [
        ("spec", .record [
          ("version", .text r.spec.version),
          ("command", .texts r.spec.command),
          ("windows", .bool r.build.windows)]),
        ("variables", .record [
          ("count", .number r.assignments.size),
          ("inline", .number r.spec.assignments.size),
          ("providers", .texts (r.spec.enabledProviders.map Provider.id))]),
        ("arguments", .array (r.build.resolved.map entryJson)),
        ("build", .record [
          ("argv", .texts r.build.arguments.shownValues),
          ("mask", .bools r.build.arguments.flags),
          ("display", .text r.build.display),
          ("errors", .texts r.build.errors)])] := by
  simp [json, Json.record, Json.without]

/-! ## Text -/

/-- What follows the command line in the text of a report. -/
def warningsSection (r : Report) : Text := r.warningLines.flatMap fun line => "\n" ++ line

theorem text_eq (r : Report) : r.text = Text.joinWith "\n" r.leadingLines ++ r.warningsSection := by
  obtain ⟨line, lines, hlines⟩ : ∃ line lines, r.leadingLines = line :: lines := ⟨_, _, rfl⟩
  rw [text, hlines, Text.joinWith_append, warningsSection]

/-! ## Two runs -/

/-- Two reports of which the same may be seen, the warnings apart. -/
structure SameFace (r₁ r₂ : Report) : Prop where
  display : r₁.build.display = r₂.build.display
  mask : r₁.build.arguments.flags = r₂.build.arguments.flags
  shownArguments : r₁.build.arguments.shownValues = r₂.build.arguments.shownValues
  json : r₁.json.without ["build", "warnings"] = r₂.json.without ["build", "warnings"]
  text : ∃ leading, r₁.text = leading ++ r₁.warningsSection ∧ r₂.text = leading ++ r₂.warningsSection

variable {s₁ s₂ : Spec} {context₁ context₂ : Context} {assignments₁ assignments₂ : OrderedMap Text Text}

theorem leadingLines_eq_of_alike (h : Spec.Alike ⟨context₁, assignments₁⟩ ⟨context₂, assignments₂⟩ s₁ s₂)
    (windows : Bool) :
    (ofSpec s₁ context₁ assignments₁ windows).leadingLines =
      (ofSpec s₂ context₂ assignments₂ windows).leadingLines := by
  have hcount : assignments₁.size = assignments₂.size := h.count
  have hlines := h.map_resolved_eq entryLine Entry.Alike.entryLine_eq
  simp only [leadingLines, ofSpec, Spec.resolved_build, Spec.windows_build, h.enabledProviders_eq, h.inlineCount,
    hcount, hlines, h.display_build_eq windows]
  cases windows <;> rfl

theorem json_eq_of_alike (h : Spec.Alike ⟨context₁, assignments₁⟩ ⟨context₂, assignments₂⟩ s₁ s₂) (windows : Bool) :
    (ofSpec s₁ context₁ assignments₁ windows).json.without ["build", "warnings"] =
      (ofSpec s₂ context₂ assignments₂ windows).json.without ["build", "warnings"] := by
  have hcount : assignments₁.size = assignments₂.size := h.count
  have hentries := h.map_resolved_eq entryJson Entry.Alike.entryJson_eq
  have hshown := Arguments.shownValues_eq_of_visible (h.visible_build_eq windows)
  have hflags := Arguments.flags_eq_of_visible (h.visible_build_eq windows)
  simp only [json_without_warnings, ofSpec, Spec.resolved_build, Spec.windows_build, h.version, h.command,
    h.inlineCount, hcount, h.enabledProviders_eq, hentries, hshown, hflags, h.display_build_eq windows,
    h.errors_build_eq windows]

theorem sameFace_of_alike (h : Spec.Alike ⟨context₁, assignments₁⟩ ⟨context₂, assignments₂⟩ s₁ s₂) (windows : Bool) :
    SameFace (ofSpec s₁ context₁ assignments₁ windows) (ofSpec s₂ context₂ assignments₂ windows) where
  display := h.display_build_eq windows
  mask := Arguments.flags_eq_of_visible (h.visible_build_eq windows)
  shownArguments := Arguments.shownValues_eq_of_visible (h.visible_build_eq windows)
  json := json_eq_of_alike h windows
  text := by
    refine ⟨_, text_eq _, ?_⟩
    rw [leadingLines_eq_of_alike h windows]
    exact text_eq _

/-- A dry run wraps as it is asked to, else as the specification asks. -/
theorem eq_of_dryRun {s : Spec} {context : Context} {c : LoadContext} {windows : Option Bool} {r : Report}
    (h : dryRun s context c windows = .ok r) :
    ∃ assignments, r = ofSpec s context assignments (windows.getD s.windows) := by
  unfold dryRun at h
  cases hload : s.loadVariables c with
  | error f => simp [hload, Except.map] at h
  | ok assignments =>
      simp only [hload, Except.map, Except.ok.injEq] at h
      exact ⟨assignments, h.symm⟩

/-- Runs of specifications that differ in their secrets only cannot be told apart by their reports, whether the
command is wrapped or not. -/
theorem dryRun_hides_secrets {c₁ c₂ : LoadContext} {windows : Option Bool} {r₁ r₂ : Report}
    (h₁ : dryRun s₁ context₁ c₁ windows = .ok r₁) (h₂ : dryRun s₂ context₂ c₂ windows = .ok r₂)
    (h : Spec.Alike ⟨context₁, r₁.assignments⟩ ⟨context₂, r₂.assignments⟩ s₁ s₂) : SameFace r₁ r₂ := by
  obtain ⟨assignments₁, rfl⟩ := eq_of_dryRun h₁
  obtain ⟨assignments₂, rfl⟩ := eq_of_dryRun h₂
  rw [← h.windows]
  exact sameFace_of_alike h _

/-- A call with a password, which a variable has. -/
def login (password : Text) : Spec where
  version := "1"
  command := ["login"]
  prepend := []
  windows := true
  assignments := OrderedMap.ofList [("PASSWORD", password)]
  providers := []
  entries := [
    { name := none, kind := .plain, value := .text "--home=$HOME", lead := defaultLead, pairs := ∅, properties := none,
      sensitive := false },
    { name := none, kind := .masked, value := .text "$PASSWORD", lead := defaultLead, pairs := ∅, properties := none,
      sensitive := false }]

/-- Surroundings in which there is nothing but a home. -/
def bareContext : Context := ⟨∅, default, 1, "/root"⟩

def bareLoadContext : LoadContext := ⟨⟨⟨[], .ofText "/root"⟩, ∅, "/root", ∅⟩, ∅, none⟩

def loginReport (password : Text) : Report :=
  ofSpec (login password) bareContext (OrderedMap.ofList [("PASSWORD", password)]) true

theorem dryRun_login (password : Text) :
    dryRun (login password) bareContext bareLoadContext none = .ok (loginReport password) :=
  rfl

theorem dryRun_hides_password : SameFace (loginReport "hunter2") (loginReport "top secret") :=
  dryRun_hides_secrets (dryRun_login "hunter2") (dryRun_login "top secret") {
    version := rfl
    windows := rfl
    command := rfl
    expandedCommand := by decide +kernel
    prepend := rfl
    expandedPrepend := by decide +kernel
    providers := rfl
    inlineCount := rfl
    count := rfl
    entries := .cons ⟨rfl, rfl, rfl, by decide +kernel, by decide +kernel, by decide +kernel⟩
      (.cons ⟨rfl, rfl, rfl, by decide +kernel, by decide +kernel, by decide +kernel⟩ .nil) }

end Report

end Invocation
