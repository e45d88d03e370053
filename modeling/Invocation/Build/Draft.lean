import Invocation.Build.Attempt
import Invocation.Macro.Recorder

/-!
# Drafts

An argument list is drafted step by step, with one recorder for all expansions on the way. Work that breaks off leaves
the draft as it has become until then.
-/

namespace Invocation

/-- An argument list in the making, and the recorder of what is expanded for it. -/
structure Draft where
  arguments : Arguments
  recorder : Macro.Recorder

/-- Work on a draft that may break off. -/
abbrev Drafting := ExceptT EntryFault (StateM Draft)

namespace Draft

def start (s : Macro.Scope) : Draft := ⟨[], .start s⟩

def scope (d : Draft) : Macro.Scope := d.recorder.scope

def warnings (d : Draft) : List Macro.Warning := d.recorder.warnings

/-- The draft with what has been warned about since. -/
def note (d : Draft) (warnings : List Macro.Warning) : Draft :=
  { d with recorder := { d.recorder with warnings := d.warnings ++ warnings } }

def expand (template : Text) : StateM Draft Text := modifyGet fun d =>
  let (text, recorder) := d.recorder.expand template
  (text, { d with recorder })

/-- The step taken on the list; what has kept it from being completed is returned. No step of a draft is given a path,
so that it may be taken in any directory. -/
def take (step : Step) : StateM Draft (Option ArgumentFault) := modifyGet fun d =>
  let outcome := step.take .top d.arguments
  (outcome.fault, { d with arguments := outcome.arguments }.note outcome.warnings)

/-- A step without which the work cannot go on. -/
def complete (step : Step) : Drafting Unit := do
  match ← take step with
  | none => return ()
  | some f => throw (.argument f)

/-- An attempt in the scope of the draft; its warnings are recorded whether it fails or not. -/
def perform {α : Type} (attempt : Macro.Scope → Attempt α) : Drafting α := fun d =>
  let a := attempt d.scope
  (a.result, d.note a.warnings)

end Draft

end Invocation
