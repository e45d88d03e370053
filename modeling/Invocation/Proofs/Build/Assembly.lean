import Invocation.Build.Basic
import Invocation.Proofs.Build.Draft

/-!
# The assembled list

However the work on a specification is ordered, its arguments stand in the order of the command line: what stands in
front, the command, and what the entries add.
-/

namespace Invocation

namespace Spec

/-- The arguments before any wrapping, given what has become of the entries. -/
def plainArguments (s : Spec) (scope : Macro.Scope) (resolved : List Resolved) : Arguments :=
  let expanded := fun (ts : List Text) => ts.map fun t => Argument.plain (scope.expand t).text
  expanded s.prepend ++ expanded s.command ++ resolved.flatMap Resolved.arguments

/-- Warnings come in the order of the work: command, entries, and last what stands in front. -/
def buildWarnings (s : Spec) (scope : Macro.Scope) (resolved : List Resolved) : List Macro.Warning :=
  let warnings := fun (ts : List Text) => ts.flatMap fun t => (scope.expand t).warnings
  warnings s.command ++ resolved.flatMap Resolved.warnings ++ warnings s.prepend

/-- The assembled list does not show in which order it has been worked on. -/
@[simp] theorem run_assemble (s : Spec) (scope : Macro.Scope) :
    s.assemble.run (.start scope) =
      let resolved := s.entries.map (Entry.resolve scope)
      (resolved, ⟨s.plainArguments scope resolved, ⟨scope, s.buildWarnings scope resolved⟩⟩) := by
  -- the command, the entries, what stands in front
  rw [assemble, Draft.run_andThen, Draft.run_mapM_expand, Draft.run_andThen,
    Draft.run_take (Step.take_add .top _ fun _ => Item.hasText_of_mem)]
  rw [Draft.run_andThen, Entry.run_mapM_apply]
  rw [Draft.run_andThen, Draft.run_mapM_expand, Draft.run_andThen,
    Draft.run_take (Step.take_prepend .top _ fun _ => Item.hasText_of_mem)]
  simp only [Item.flatMap_texts_ofText]
  simp [plainArguments, buildWarnings, Draft.start, Draft.extend, Draft.note, Draft.warnings, Draft.scope,
    Macro.Recorder.start, List.flatMap_map, Function.comp_def]
  rfl

variable (s : Spec) (scope : Macro.Scope) (windows : Bool)

theorem resolved_build : (s.build scope windows).resolved = s.entries.map (Entry.resolve scope) := by
  simp [build]

theorem windows_build : (s.build scope windows).windows = windows := rfl

theorem arguments_build :
    (s.build scope windows).arguments =
      let plain := s.plainArguments scope (s.entries.map (Entry.resolve scope))
      if windows then Shell.wrapHiding plain else plain := by
  simp [build]

theorem display_build :
    (s.build scope windows).display =
      let plain := s.plainArguments scope (s.entries.map (Entry.resolve scope))
      if windows then (Shell.wrap plain.redacted.values).display else plain.maskedDisplay := by
  simp [build]

end Spec

end Invocation
