import Invocation.Argument.Basic
import Invocation.Shell.Escape

/-!
# Commands wrapped for `cmd.exe`

A command is run through `cmd.exe /C` so that its exit code becomes that of the shell. The percent signs of the
variable are doubled because the shell is to read it after the command has run.
-/

namespace Invocation

namespace Shell

def executable : Text := "cmd.exe"

def switch : Text := "/C"

/-- Ends the shell with the exit code of the command before it. -/
def exitTrailer : Text := "&& exit %%ERRORLEVEL%%"

/-- The escaped arguments, each followed by a space, and the trailer. -/
def commandText (values : List Text) : Text := (values.flatMap fun v => escape v ++ [.scalar ' ']) ++ exitTrailer

/-- The call of the shell that runs the command. The flags of secrets are not carried over. -/
def wrap (values : List Text) : Arguments :=
  [Argument.plain executable, Argument.plain switch, Argument.plain (commandText values).inQuotes]

/-- The call of the shell. If anything in the command is secret, the call is put together once more with its last
argument hidden. -/
def wrapHiding (as : Arguments) : Arguments :=
  let wrapped := wrap as.values
  if !as.hasSecret then wrapped
  else
    match wrapped.values with
    | [executable, switch, command] => [.plain executable, .plain switch, .hidden command]
    | _ => wrapped

theorem wrapHiding_eq (as : Arguments) :
    wrapHiding as = [.plain executable, .plain switch, ⟨(commandText as.values).inQuotes, as.hasSecret⟩] := by
  cases h : as.hasSecret <;> simp [wrapHiding, wrap, h, Arguments.values, Argument.plain, Argument.hidden]

theorem values_wrapHiding (as : Arguments) : (wrapHiding as).values = (wrap as.values).values := by
  rw [wrapHiding_eq]
  rfl

theorem flags_wrapHiding (as : Arguments) : (wrapHiding as).flags = [false, false, as.hasSecret] := by
  rw [wrapHiding_eq]
  rfl

/-! ## Checked calls -/

/-- What is given in the place of a command. -/
inductive Given where
  | arguments (values : List Text)
  | text (t : Text)

inductive GivenFault where
  | notSequence
deriving DecidableEq

def GivenFault.message : GivenFault → Text
  | notSequence => "to_windows_command expects a sequence of arguments, not a string"

/-- A text is no command, although it is made of characters that could be taken for arguments. -/
def Given.wrap : Given → Except GivenFault Arguments
  | arguments values => .ok (Shell.wrap values)
  | text _ => .error .notSequence

end Shell

end Invocation
