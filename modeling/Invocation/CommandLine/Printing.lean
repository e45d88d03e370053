import Invocation.Provider.Load
import Invocation.Spec.Load
import Invocation.Terminal.Console

/-!
# Printing

An action prints one text after the other until it ends or something stops it. What the console cannot print stops it
too.
-/

namespace Invocation

namespace CommandLine

/-! ## Stops -/

inductive Failure where
  | spec (f : Spec.LoadFault)
  | provider (f : Provider.LoadFault)
  /-- What the console says of a markup text. -/
  | markup (message : Text)
deriving DecidableEq

def Failure.message : Failure → Text
  | spec f => f.message
  | provider f => f.message
  | markup message => message

/-- Why an action stops before its end. -/
inductive Stop where
  /-- All that there is to say has been said. -/
  | refused
  | failed (f : Failure)
  | unwritable
deriving DecidableEq

def Stop.ofConsole : Console.Fault → Stop
  | .markup message => failed (.markup message)
  | .unwritable => unwritable

/-- An action with what it has printed so far. -/
abbrev Printing := ExceptT Stop (StateM Text)

/-- What is left of an action. -/
structure Exit where
  output : Text
  status : Nat
deriving DecidableEq

namespace Printing

/-! ## Texts -/

/-- Prints what the console has made of a text. -/
def emit (made : Except Console.Fault Text) : Printing Unit :=
  match made with
  | .ok t => modify (· ++ t)
  | .error f => throw (.ofConsole f)

variable (c : Console)

/-- Lines under a heading, each behind a bullet. -/
def printList (heading : Text) (lines : List Text) : Printing Unit := do
  emit (c.markup heading)
  lines.forM fun line => emit (c.markup ("  [red]• " ++ c.escape line ++ "[/red]"))

/-- The markup of a warning, which is not escaped. -/
def warningLine (w : Macro.Warning) : Text := "[yellow]Warning: " ++ w.message ++ "[/yellow]"

def printWarnings (warnings : List Macro.Warning) : Printing Unit :=
  warnings.forM fun w => emit (c.markup (warningLine w))

/-! ## Ends -/

/-- How an action ends. A failure is reported under the heading. -/
def finish (heading : Text) (p : Printing Unit) : Exit :=
  match p.run.run [] with
  | (.ok (), output) => ⟨output, 0⟩
  | (.error (.failed f), output) =>
    ⟨((emit (c.markup ("[red]" ++ heading ++ ": " ++ c.escape f.message ++ "[/red]"))).run.run output).2, 1⟩
  | (.error _, output) => ⟨output, 1⟩

end Printing

end CommandLine

end Invocation
