import Invocation.Proofs.Build.Warnings

/-!
# The layout of a command line

The arguments of a specification stand in the order in front, command, entries, although what stands in front is
worked on last. Each entry has a stretch of its own, which is secret as a whole or not at all, and the warnings tell
in which order the templates have been expanded.
-/

namespace Invocation

open Macro

namespace Spec

variable (s : Spec) (scope : Scope)

theorem warnings_build (windows : Bool) :
    (s.build scope windows).warnings =
      (s.command.flatMap fun t => (scope.expand t).warnings) ++
      (s.entries.flatMap fun e => e.expandedTemplates.flatMap fun t => (scope.expand t).warnings) ++
      (s.prepend.flatMap fun t => (scope.expand t).warnings) := by
  simp [build, buildWarnings, List.flatMap_map, Entry.warnings_resolve, Entry.warnings_attempt]

theorem entries_build (windows : Bool) : (s.build scope windows).resolved.map Resolved.entry = s.entries := by
  rw [resolved_build, List.map_map]
  simp [Function.comp_def]

/-- What stands before the entries is never secret. -/
theorem arguments_build_plain :
    (s.build scope false).arguments =
      ((s.prepend ++ s.command).map fun t => (scope.expand t).text).map Argument.plain ++
        (s.build scope false).resolved.flatMap Resolved.arguments := by
  simp [arguments_build, resolved_build, plainArguments, Function.comp_def]

theorem values_build :
    (s.build scope false).arguments.values =
      (s.prepend.map fun t => (scope.expand t).text) ++ (s.command.map fun t => (scope.expand t).text) ++
        ((s.build scope false).resolved.flatMap fun r => r.arguments.values) := by
  rw [arguments_build_plain, Arguments.values_append, Arguments.values_map_plain, Arguments.values_flatMap,
    List.map_append]

theorem flags_resolve (e : Entry) :
    (e.resolve scope).arguments.flags = List.replicate (e.resolve scope).arguments.length e.isSecret := by
  refine List.eq_replicate_iff.mpr ⟨Arguments.length_flags _, fun b hb => ?_⟩
  obtain ⟨a, ha, rfl⟩ := List.mem_map.mp hb
  exact Entry.secret_of_mem_arguments ha

theorem flags_build :
    (s.build scope false).arguments.flags =
      List.replicate (s.prepend.length + s.command.length) false ++
        ((s.build scope false).resolved.flatMap fun r => List.replicate r.arguments.length r.entry.isSecret) := by
  rw [arguments_build_plain, Arguments.flags_append, Arguments.flags_map_plain, Arguments.flags_flatMap,
    resolved_build, List.length_map, List.length_append]
  simp only [List.flatMap_map, flags_resolve, Entry.entry_resolve]

end Spec

end Invocation
