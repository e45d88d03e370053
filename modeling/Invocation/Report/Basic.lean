import Invocation.Build.Basic
import Invocation.Json.Basic
import Invocation.Provider.Load

/-!
# Reports

A report shows what a specification would run, without running it and without its secrets: as text for a reader and
as JSON for a program.
-/

namespace Invocation

structure Report where
  spec : Spec
  assignments : OrderedMap Text Text
  build : Build

namespace Report

/-- The report on a build with the given variables. -/
def ofSpec (s : Spec) (context : Context) (assignments : OrderedMap Text Text) (windows : Bool) : Report :=
  ⟨s, assignments, s.build ⟨context, assignments⟩ windows⟩

/-- The report on what a specification would run with the variables that it loads. What `windows` says about the
wrapping goes before what the specification says. -/
def dryRun (s : Spec) (context : Context) (c : LoadContext) (windows : Option Bool) : Except Provider.LoadFault Report :=
  (s.loadVariables c).map fun assignments => ofSpec s context assignments (windows.getD s.windows)

/-! ## Text -/

/-- One line for an entry. -/
def entryLine (r : Resolved) : Text :=
  let outcome : Text :=
    match r.error with
    | some e => "ERROR: " ++ Text.quotedList [e]
    | none => Text.quotedList r.arguments.shownValues
  r.entry.label ++ " (" ++ r.entry.kind.word ++ ") -> " ++ outcome

/-- What the report says about the variables, the entries and the command. Sections follow one another with an empty
line between them. -/
def leadingLines (r : Report) : List Text :=
  let providers := r.spec.enabledProviders.length
  let sources : List Text :=
    ["=== Variables ===",
      "providers: " ++ Text.ofNat providers,
      "variables: " ++ Text.ofNat r.assignments.size ++ " (inline: " ++ Text.ofNat r.spec.assignments.size ++ ")"]
  let entries : List Text := "\n=== Arguments ===" :: r.build.resolved.map entryLine
  let command : List Text :=
    if r.build.windows then ["\n=== Command Line ===", "(wrapped for cmd.exe)", r.build.display]
    else ["\n=== Command Line ===", r.build.display]
  sources ++ entries ++ command

/-- The last section, which is only there if there are warnings. -/
def warningLines (r : Report) : List Text :=
  if r.build.warnings.isEmpty then [] else "\n=== Warnings ===" :: r.build.warnings.map Macro.Warning.message

def text (r : Report) : Text := Text.joinWith "\n" (r.leadingLines ++ r.warningLines)

/-! ## JSON -/

def entryJson (r : Resolved) : Json :=
  .record [
    ("name", .text r.entry.label),
    ("kind", .text r.entry.kind.word),
    ("sensitive", .bool r.entry.isSecret),
    ("values", .texts r.arguments.shownValues),
    ("errors", .texts r.errors)]

def json (r : Report) : Json :=
  .record [
    ("spec", .record [
      ("version", .text r.spec.version),
      ("command", .texts r.spec.command),
      ("windows", .bool r.build.windows)]),
    ("variables", .record [
      ("count", .number r.assignments.size),
      ("inline", .number r.spec.assignments.size),
      ("providers", .texts (r.spec.enabledProviders.map Provider.id))]),
    ("arguments", .array (r.build.resolved.map entryJson)),
    ("build", .record [
      ("argv", .texts r.build.arguments.shownValues),
      ("mask", .bools r.build.arguments.flags),
      ("display", .text r.build.display),
      ("warnings", .texts (r.build.warnings.map Macro.Warning.message)),
      ("errors", .texts r.build.errors)])]

end Report

end Invocation
