import Invocation.CommandLine.Printing
import Invocation.CommandLine.Request
import Invocation.Report.Basic
import Invocation.Schema.Description
import Invocation.Spec.Problems

/-!
# Running requests

What each action prints and how it ends.
-/

namespace Invocation

namespace CommandLine

open Printing

/-- What a run of the program finds when it starts. -/
structure Surroundings where
  host : Host
  now : LocalTime
  process : Int
  console : Console

def Surroundings.context (w : Surroundings) : Context := ⟨w.host.environment, w.now, w.process, w.host.home⟩

/-! ## Parts of actions -/

variable (w : Surroundings)

def checkVerbosity (s : Settings) : Printing Unit := do
  if s.verbose && s.quiet then
    emit (w.console.markup "[red]Error: --verbose and --quiet cannot be used together[/red]")
    throw .refused

def loadSpec (file : Path) : Printing Spec :=
  match Spec.load w.host.files file with
  | .ok s => return s
  | .error f => throw (.failed (.spec f))

def report (s : Spec) (workingDirectory : Option Text) (windows : Option Bool) : Printing Report :=
  match Report.dryRun s w.context ⟨w.host, w.host.environment, workingDirectory⟩ windows with
  | .ok r => return r
  | .error f => throw (.failed (.provider f))

/-- Stops the action if there is anything to complain about. -/
def refuse (heading : Text) (complaints : List Text) : Printing Unit := do
  if !complaints.isEmpty then
    printList w.console heading complaints
    throw .refused

/-- The line about the file, whose name is not escaped. -/
def loadedLine (file : Path) : Text := "[blue]Loaded specification from " ++ file.text ++ "[/blue]"

/-! ## Actions -/

/-- The command line that a specification describes, without its secrets. -/
def render (file : Path) (s : Settings) : Printing Unit := do
  checkVerbosity w s
  let r ← report w (← loadSpec w file) s.workingDirectory s.windows
  refuse w "[red]Configuration errors:[/red]" r.build.errors
  if s.json then emit (w.console.json r.json)
  else if s.verbose then
    printWarnings w.console r.build.warnings
    emit (w.console.panel "Command Plan" (w.console.escape r.text))
  else emit (w.console.plain r.build.display)

/-- Whether a specification says what can be run. -/
def validate (file : Path) (s : Settings) : Printing Unit := do
  checkVerbosity w s
  let spec ← loadSpec w file
  if s.verbose then
    emit (w.console.markup (loadedLine file))
    emit (w.console.markup ("Version: " ++ spec.version))
    emit (w.console.markup ("Providers: " ++ Text.ofNat spec.providers.length))
    emit (w.console.markup ("Arguments: " ++ Text.ofNat spec.entries.length))
    emit (w.console.markup "[blue]Performing semantic validation...[/blue]")
  refuse w "[red]Semantic validation failed:[/red]" ((spec.problems s.strict).map Problem.message)
  if s.verbose then emit (w.console.markup "[blue]Performing dry run validation...[/blue]")
  let r ← report w spec none none
  refuse w "[red]Validation failed:[/red]" r.build.errors
  if s.verbose then printWarnings w.console r.build.warnings
  if !s.quiet then
    if s.strict then emit (w.console.markup "[green]✓ Specification is valid (strict mode)[/green]")
    else emit (w.console.markup "[green]✓ Specification is valid[/green]")

/-- What is shown of an entry: its values, or what has gone wrong. -/
def entryValues (r : Resolved) : Text :=
  match r.error with
  | some e => e
  | none => Text.joinWith " " r.arguments.shownValues

/-- The row of an entry: its name, which is markup, its kind, and what has become of it. -/
def entryRow (c : Console) (r : Resolved) : List Text :=
  let status : Text := if r.fault.isSome then "✗ Error" else "✓ Resolved"
  [r.entry.label, r.entry.kind.word, status, c.escape (entryValues r)]

def argumentRow (c : Console) (number : Nat) (a : Argument) : List Text :=
  [Text.ofNat number, c.escape a.shown, if a.secret then "yes" else ""]

def entryTable (c : Console) (b : Build) : Except Console.Fault Text :=
  c.table "Arguments" ["Name", "Kind", "Status", "Values"] (b.resolved.map (entryRow c))

def argumentTable (c : Console) (b : Build) : Except Console.Fault Text :=
  c.table "Final Argument Vector" ["#", "Argument", "Masked"]
    (b.arguments.zipIdx.map fun (a, number) => argumentRow c number a)

def printTables (c : Console) (b : Build) : Printing Unit := do
  emit (entryTable c b)
  emit (argumentTable c b)

/-- How a specification turns into arguments. -/
def explain (file : Path) (s : Settings) : Printing Unit := do
  checkVerbosity w s
  let spec ← loadSpec w file
  if s.verbose then emit (w.console.markup (loadedLine file))
  let r ← report w spec none none
  printTables w.console r.build
  emit (w.console.markup "\n[bold]Command Line:[/bold]")
  emit (w.console.plain r.build.display)
  if s.verbose then printWarnings w.console r.build.warnings

/-- The command for `cmd.exe` that runs the arguments. -/
def escape (arguments : List Text) : Printing Unit :=
  (Shell.wrap arguments).values.forM fun value => emit (w.console.plain value)

/-! ## Requests -/

namespace Request

/-- The specification that is asked for. -/
def specFiles : Request → List Path
  | .render file _ | .validate file _ | .explain file _ => [.ofText file]
  | .escape _ | .printSchema => []

def workingDirectory : Request → Option Text
  | .render _ s => s.workingDirectory
  | _ => none

/-- The files in which the specification that is asked for looks for variables, as far as the host shows it. -/
def variableFiles (h : Host) (r : Request) : List Path :=
  let specs := r.specFiles.filterMap fun file => (Spec.load h.files file).toOption
  specs.flatMap fun s => s.variableFiles ⟨h, h.environment, r.workingDirectory⟩

def run (w : Surroundings) : Request → Exit
  | .render file s => (CommandLine.render w (.ofText file) s).finish w.console "Error"
  | .validate file s => (CommandLine.validate w (.ofText file) s).finish w.console "Validation error"
  | .explain file s => (CommandLine.explain w (.ofText file) s).finish w.console "Error"
  | .escape arguments => (CommandLine.escape w arguments).finish w.console "Error"
  | .printSchema => (emit (w.console.json Schema.description)).finish w.console "Error"

end Request

end CommandLine

end Invocation
