import Invocation.Text.Quoted

/-!
# Arguments

An argument of a process is a text and the note whether it is secret. The flags of a list of arguments travel with
the texts, so whatever moves an argument moves its flag.
-/

namespace Invocation

/-- What is shown in place of a secret. -/
def placeholder : Text := "<masked>"

structure Argument where
  value : Text
  secret : Bool
deriving DecidableEq, Inhabited

namespace Argument

def plain (value : Text) : Argument := ⟨value, false⟩

def hidden (value : Text) : Argument := ⟨value, true⟩

/-- The text that may be shown. -/
def shown (a : Argument) : Text := if a.secret then placeholder else a.value

/-- An argument with nothing to hide that shows as `a` does. -/
def redacted (a : Argument) : Argument := plain a.shown

end Argument

/-- A text in double quotes, with nothing inside changed. -/
def Text.inQuotes (t : Text) : Text := "\"" ++ t ++ "\""

/-- How a text stands in a command line that is shown: in quotes if it is empty or has a space in it. -/
def Text.forDisplay (t : Text) : Text :=
  if t.contains (.scalar ' ') || t.isEmpty then t.inQuotes else t

/-- A sensitive value that is there is replaced by the placeholder. -/
def maskedValue (value : Option Text) (sensitive : Bool) : Option Text :=
  if sensitive then value.map fun _ => placeholder else value

abbrev Arguments := List Argument

namespace Arguments

def values (as : Arguments) : List Text := as.map Argument.value

def flags (as : Arguments) : List Bool := as.map Argument.secret

def shownValues (as : Arguments) : List Text := as.map Argument.shown

def hasSecret (as : Arguments) : Bool := as.any Argument.secret

def redacted (as : Arguments) : Arguments := as.map Argument.redacted

/-- The command line with every secret in the clear. -/
def display (as : Arguments) : Text := Text.joinWith " " (as.map fun a => a.value.forDisplay)

/-- The command line that may be shown. -/
def maskedDisplay (as : Arguments) : Text :=
  Text.joinWith " " (as.map fun a => if a.secret then placeholder else a.value.forDisplay)

/-- The list as it is named where values are inspected. -/
def inspected (as : Arguments) : Text := "ArgumentBuilder(" ++ as.maskedDisplay.quoted ++ ")"

end Arguments

end Invocation
