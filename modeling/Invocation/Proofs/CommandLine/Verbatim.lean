import Invocation.Proofs.CommandLine.Status
import Invocation.Proofs.Terminal.Verbatim

/-!
# Command lines as they are printed

A command line is printed to be used, so it should be printed as it is. It is printed as plain text, but a console that
knows emoji and tab stops still has its say: a command line arrives unchanged if and only if it shows itself.
-/

namespace Invocation

namespace CommandLine

open Terminal Printing

/-! ## Plain lines -/

namespace Printing

/-- The lines as they are, each with its line break. -/
def onLines (lines : List Text) : Text := lines.flatMap fun line => line ++ Text.ofString "\n"

theorem plainLine_eq (t : Text) :
    plainLine t =
      if (onTerminal (withEmoji t)).hasSurrogate then .error .unwritable
      else .ok (onTerminal (withEmoji t) ++ "\n") := by
  have hline : (onTerminal (withEmoji t) ++ "\n").hasSurrogate = (onTerminal (withEmoji t)).hasSurrogate := by
    rw [Bool.eq_iff_iff, ← Bool.not_eq_false, ← Bool.not_eq_false, Text.hasSurrogate_eq_false_iff,
      Text.hasSurrogate_eq_false_iff, Text.isWritable_line]
  rw [plainLine, written, hline]
  rfl

theorem plainLine_of_showsItself {t : Text} (h : ShowsItself t) : plainLine t = .ok (t ++ "\n") := by
  obtain ⟨hwritable, hshown⟩ := showsItself_iff.mp h
  rw [plainLine_eq, Text.hasSurrogate_eq_false_iff.mpr hwritable, hshown]
  rfl

/-- What an action leaves that goes on like the printing of its last line. -/
theorem output_finish_iff {c : Console} {p : Printing Unit} {output t : Text}
    (hp : p.run.run [] = (emit (plainLine t)).run.run output) (heading : Text) :
    (finish c heading p).output = output ++ (t ++ "\n") ↔ ShowsItself t := by
  rw [finish, hp, run_emit, plainLine_eq, showsItself_iff, ← Text.hasSurrogate_eq_false_iff]
  cases hsurrogate : (onTerminal (withEmoji t)).hasSurrogate with
  | false => simp
  | true => simp [Stop.ofConsole, Text.ofString]

end Printing

/-! ## Actions -/

variable (w : Surroundings)

/-- Behind two hyphens everything is an operand. -/
theorem foldlM_take_of_ended (a : Action) (arguments : List Text) {r : Reading} (hawaits : r.awaitsValue = false)
    (hended : r.ended = true) :
    arguments.foldlM (Reading.take a) r = .ok { r with operands := r.operands ++ arguments } := by
  induction arguments generalizing r with
  | nil => simp [pure, Except.pure]
  | cons argument arguments ih =>
      have htake : r.take a argument = .ok { r with operands := r.operands ++ [argument] } := by
        simp [Reading.take, hawaits, hended]
      have hrest := @ih { r with operands := r.operands ++ [argument] } hawaits hended
      rw [List.append_assoc, List.singleton_append] at hrest
      rw [List.foldlM_cons, htake]
      exact hrest

theorem ofArguments_escape {arguments : List Text} (hne : arguments ≠ []) :
    Request.ofArguments ("escape" :: "--" :: arguments) = .ok (.escape arguments) := by
  have hread : Action.escape.read ("--" :: arguments) = .ok (.escape arguments) := by
    have hend : Reading.start.take .escape "--" = .ok { Reading.start with ended := true } := rfl
    rw [Action.read, List.foldlM_cons, hend]
    simp only [bind, Except.bind]
    rw [foldlM_take_of_ended .escape arguments rfl rfl]
    simp [Reading.start, Action.request, hne]
  exact hread

/-- Plain text is printed in UTF-8, in lines as wide as they are; emoji codes, tabs and what moves the cursor are not
printed as they are. -/
def PrintsPlainLines (c : Console) : Prop := ∀ t, c.plain t = plainLine t

section plain

variable {w} (hplain : PrintsPlainLines w.console)

include hplain

/-- The first two lines show themselves. -/
theorem run_escape (arguments : List Text) :
    (escape w arguments).run.run [] =
      (emit (plainLine (Shell.commandText arguments).inQuotes)).run.run "cmd.exe\n/C\n" := by
  have hexecutable : ShowsItself Shell.executable := showsItself_ofString (by decide) (by decide)
  have hswitch : ShowsItself Shell.switch := showsItself_ofString (by decide) (by decide)
  have hlines : escape w arguments =
      (do emit (plainLine Shell.executable); emit (plainLine Shell.switch);
          emit (plainLine (Shell.commandText arguments).inQuotes)) := by
    simp [escape, Shell.wrap, Arguments.values, Argument.plain, hplain _]
  rw [hlines, plainLine_of_showsItself hexecutable, plainLine_of_showsItself hswitch]
  simp only [run_bind]
  rfl

theorem output_escape_iff (arguments : List Text) :
    ((Request.escape arguments).run w).output = onLines (Shell.wrap arguments).values ↔
      ShowsItself (Shell.commandText arguments).inQuotes := by
  have hlines : onLines (Shell.wrap arguments).values =
      "cmd.exe\n/C\n" ++ ((Shell.commandText arguments).inQuotes ++ "\n") := by
    simp [onLines, Shell.wrap, Arguments.values, Argument.plain, Shell.executable, Shell.switch, Text.ofString]
  rw [hlines]
  exact output_finish_iff (run_escape hplain arguments) "Error"

theorem run_render {file : Path} {s : Settings} {spec : Spec} {r : Report} (hjson : s.json = false)
    (hverbose : s.verbose = false) (hload : Spec.load w.host.files file = .ok spec)
    (hr : dryRun w spec s.workingDirectory s.windows = .ok r) (herrors : r.build.errors = []) :
    render w file s = emit (plainLine r.build.display) := by
  have hchecked : checkVerbosity w s = pure () := by simp [checkVerbosity, hverbose]
  have hloaded : loadSpec w file = pure spec := by rw [loadSpec, hload]
  have hreported : report w spec s.workingDirectory s.windows = pure r := by rw [report, ← dryRun, hr]
  have hcleared (heading : Text) : refuse w heading r.build.errors = pure () := by rw [refuse, herrors]; rfl
  simp only [render, hchecked, hloaded, hreported, hcleared, pure_bind, hjson, hverbose, Bool.false_eq_true, if_false,
    hplain _]

end plain

/-- On a console that prints plain lines in UTF-8, a command line arrives as it is if and only if it shows itself. This
holds of the command for `cmd.exe`, whatever its arguments are, and of the command line of every specification that
gives one. -/
theorem Request.run_verbatim_iff (hplain : PrintsPlainLines w.console) :
    (∀ arguments : List Text, arguments ≠ [] →
      ofArguments ("escape" :: "--" :: arguments) = .ok (.escape arguments) ∧
      (((Request.escape arguments).run w).output = onLines (Shell.wrap arguments).values ↔
        ShowsItself (Shell.commandText arguments).inQuotes)) ∧
    ∀ (file : Text) (s : Settings) (spec : Spec) (r : Report), s.json = false → s.verbose = false →
      Spec.load w.host.files (.ofText file) = .ok spec → dryRun w spec s.workingDirectory s.windows = .ok r →
      r.build.errors = [] →
      (((Request.render file s).run w).output = onLines [r.build.display] ↔ ShowsItself r.build.display) := by
  refine ⟨fun arguments hne => ⟨ofArguments_escape hne, output_escape_iff hplain arguments⟩, ?_⟩
  intro file s spec r hjson hverbose hload hr herrors
  have hline : onLines [r.build.display] = ([] : Text) ++ (r.build.display ++ "\n") := by simp [onLines]
  rw [hline]
  exact output_finish_iff (congrArg (fun p => p.run.run []) (run_render hplain hjson hverbose hload hr herrors)) "Error"

/-! ## A greeting and a tab -/

/-- A directory with a specification of a command that shows itself. -/
def greetingFiles : FileTree :=
  let source : String := "version: '1'\ncommand: [echo, 'hello world']\n"
  ⟨[(["s.yaml"], .file source.toUTF8.toList)], .ofText "/"⟩

def greetingSurroundings : Surroundings := ⟨⟨greetingFiles, ∅, "/root", ∅⟩, default, 1, console 80⟩

theorem dryRun_greeting :
    ∃ spec, Spec.load greetingFiles (.ofText "s.yaml") = .ok spec ∧
      ∃ r, dryRun greetingSurroundings spec none none = .ok r ∧ r.build.errors = [] ∧
        r.build.display = "echo \"hello world\"" := by
  have hrun : ((Spec.load greetingSurroundings.host.files (.ofText "s.yaml")).toOption.bind fun spec =>
      (dryRun greetingSurroundings spec none none).toOption.map fun r => (r.build.errors, r.build.display)) =
        some ([], .ofString "echo \"hello world\"") := by decide +kernel
  obtain ⟨spec, hload, r, hr, hfound⟩ := exists_dryRun hrun
  obtain ⟨herrors, hdisplay⟩ := Prod.mk.inj hfound
  exact ⟨spec, hload, r, hr, herrors, hdisplay⟩

/-- Words and quotes are printed as they are. -/
theorem run_verbatim_greeting :
    PrintsPlainLines greetingSurroundings.console ∧
    ((Request.escape ["echo", "hello world"]).run greetingSurroundings).output =
      "cmd.exe\n/C\n\"echo \"hello world\" && exit %%ERRORLEVEL%%\"\n" ∧
    ((Request.render "s.yaml" .standard).run greetingSurroundings).output = "echo \"hello world\"\n" := by
  have hplain : PrintsPlainLines greetingSurroundings.console := fun _ => rfl
  obtain ⟨hescape, hrender⟩ := Request.run_verbatim_iff greetingSurroundings hplain
  obtain ⟨spec, hload, r, hr, herrors, hdisplay⟩ := dryRun_greeting
  refine ⟨hplain, ?_, ?_⟩
  · have harguments : (["echo", "hello world"] : List Text) ≠ [] := by simp
    have htext : (Shell.commandText ["echo", "hello world"]).inQuotes =
        Text.ofString "\"echo \"hello world\" && exit %%ERRORLEVEL%%\"" := by decide +kernel
    exact (hescape _ harguments).2.mpr (htext ▸ showsItself_ofString (by decide) (by decide))
  · have hline := (hrender "s.yaml" .standard spec r rfl rfl hload hr herrors).mpr
    rw [hdisplay] at hline
    exact hline (showsItself_ofString (by decide) (by decide))

/-- A tab in an argument does not arrive: spaces up to the next tab stop are printed for it. -/
theorem escape_expands_tab :
    Request.ofArguments ["escape", "--", "a\tb"] = .ok (.escape ["a\tb"]) ∧
    onLines (Shell.wrap ["a\tb"]).values = "cmd.exe\n/C\n\"a\tb && exit %%ERRORLEVEL%%\"\n" ∧
    ((Request.escape ["a\tb"]).run greetingSurroundings).output =
      "cmd.exe\n/C\n\"a      b && exit %%ERRORLEVEL%%\"\n" ∧
    ((Request.escape ["a\tb"]).run greetingSurroundings).output ≠ onLines (Shell.wrap ["a\tb"]).values := by
  decide +kernel

end CommandLine

end Invocation
