import Invocation.Proofs.Argument.Display
import Invocation.Proofs.Build.Warnings

/-!
# Wrapping a build

A build that is wrapped for `cmd.exe` runs the wrap of what the build without wrapping runs. What it shows is made in
another way: the secrets are hidden first, and the wrap of what is left is shown. Where nothing is secret, both ways
come to the same.
-/

namespace Invocation

/-! ## Lists without secrets -/

namespace Arguments

variable {as : Arguments}

theorem hasSecret_eq_any (as : Arguments) : as.hasSecret = as.flags.any id := by
  rw [hasSecret, flags, List.any_map]
  rfl

theorem redacted_of_not_hasSecret (h : as.hasSecret = false) : as.redacted = as := by
  have hall : ∀ a ∈ as, a.redacted = a := by
    intro a ha
    have hopen : a.secret = false := Bool.eq_false_iff.mpr (List.any_eq_false.mp h a ha)
    cases a
    cases hopen
    rfl
  rw [redacted, List.map_congr_left hall, List.map_id']

theorem maskedDisplay_of_not_hasSecret (h : as.hasSecret = false) : as.maskedDisplay = as.display := by
  rw [← display_redacted, redacted_of_not_hasSecret h]

end Arguments

/-! ## The wrap of a list with secrets -/

namespace Shell

variable {as : Arguments}

/-- A list without secrets is wrapped as its texts are. -/
theorem wrapHiding_of_not_hasSecret (h : as.hasSecret = false) : wrapHiding as = wrap as.values := by
  rw [wrapHiding_eq, h]
  rfl

theorem hasSecret_wrap (values : List Text) : (wrap values).hasSecret = false := rfl

end Shell

/-! ## Builds -/

namespace Spec

variable (s : Spec) (scope : Macro.Scope)

theorem arguments_build_windows :
    (s.build scope true).arguments = Shell.wrapHiding (s.build scope false).arguments :=
  rfl

theorem display_build_windows :
    (s.build scope true).display = (Shell.wrap (s.build scope false).arguments.shownValues).display := by
  rw [← Arguments.values_redacted]
  rfl

theorem display_build_plain : (s.build scope false).display = (s.build scope false).arguments.maskedDisplay :=
  rfl

/-- What a wrapped build runs is the wrap of what the plain build runs, and it is secret as a whole if anything in it
is. What it shows is the wrap of what the plain build lets see. Entries, warnings and errors are those of the plain
build. What is shown of a plain build has its secrets replaced one by one; without secrets both builds show what they
run. -/
theorem build_wraps :
    let plain := s.build scope false
    let wrapped := s.build scope true
    wrapped.arguments.values = (Shell.wrap plain.arguments.values).values ∧
    wrapped.arguments.flags = [false, false, plain.arguments.flags.any id] ∧
    wrapped.display = (Shell.wrap plain.arguments.shownValues).display ∧
    wrapped.resolved = plain.resolved ∧ wrapped.warnings = plain.warnings ∧ wrapped.errors = plain.errors ∧
    plain.display = Arguments.display (plain.arguments.shownValues.map Argument.plain) ∧
    (true ∉ plain.arguments.flags →
      wrapped.display = wrapped.arguments.maskedDisplay ∧ plain.display = plain.arguments.display) := by
  intro plain wrapped
  have hplain : plain.display = plain.arguments.maskedDisplay := s.display_build_plain scope
  have hwrapped : wrapped.arguments = Shell.wrapHiding plain.arguments := s.arguments_build_windows scope
  have hdisplay : wrapped.display = (Shell.wrap plain.arguments.shownValues).display := s.display_build_windows scope
  refine ⟨?_, ?_, hdisplay, rfl, rfl, rfl, ?_, fun hflags => ?_⟩
  · rw [hwrapped, Shell.values_wrapHiding]
  · rw [hwrapped, Shell.flags_wrapHiding, Arguments.hasSecret_eq_any]
  · rw [← Arguments.redacted_eq, Arguments.display_redacted, hplain]
  · have hopen : plain.arguments.hasSecret = false := by
      rw [Arguments.hasSecret_eq_any, List.any_eq_false]
      exact fun b hb htrue => hflags (htrue ▸ hb)
    constructor
    · rw [hwrapped, Shell.wrapHiding_of_not_hasSecret hopen,
        Arguments.maskedDisplay_of_not_hasSecret (Shell.hasSecret_wrap _), hdisplay, ← Arguments.values_redacted,
        Arguments.redacted_of_not_hasSecret hopen]
    · rw [hplain, Arguments.maskedDisplay_of_not_hasSecret hopen]

/-- An argument with a space in it is quoted, and so is the whole command: once for the shell, once to be shown. -/
theorem build_wraps_open :
    true ∉ ((loginWith [.ofValue .plain (.text "a b") false]).build .bare false).arguments.flags ∧
    ((loginWith [.ofValue .plain (.text "a b") false]).build .bare true).arguments.maskedDisplay =
      "cmd.exe /C \"\"login \"a b\" && exit %%ERRORLEVEL%%\"\"" ∧
    ((loginWith [.ofValue .plain (.text "a b") false]).build .bare false).arguments.display = "login \"a b\"" := by
  have hflags : true ∉ ((loginWith [.ofValue .plain (.text "a b") false]).build .bare false).arguments.flags := by
    decide +kernel
  obtain ⟨-, -, -, -, -, -, -, hshows⟩ := build_wraps (loginWith [.ofValue .plain (.text "a b") false]) .bare
  obtain ⟨hwrapped, hplain⟩ := hshows hflags
  exact ⟨hflags, hwrapped.symm.trans (by decide +kernel), hplain.symm.trans (by decide +kernel)⟩

end Spec

end Invocation
