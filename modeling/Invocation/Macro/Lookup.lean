import Invocation.Calendar.Format
import Invocation.OrderedMap
import Invocation.Text.Blank

/-!
# Looking up references

A name is looked up in the environment or in the calendar if it says so, else among the variables, and last among two
names that always have a value. A name without a value is reported.
-/

namespace Invocation

/-- What surrounds a run of the program. -/
structure Context where
  environment : OrderedMap Text Text
  now : LocalTime
  process : Int
  home : Text

namespace Macro

inductive Warning where
  | missingEnvironment (name : Text)
  | badDateFormat (format : Text) (error : Utf8.EncodeError)
  | unknownVariable (name : Text)
deriving DecidableEq

def Warning.message : Warning → Text
  | missingEnvironment name => "Environment variable '" ++ name ++ "' not found"
  | badDateFormat format error => "Invalid date format '" ++ format ++ "': " ++ error.message
  | unknownVariable name => "Unknown variable: " ++ name

/-- Where names have their values. -/
structure Scope where
  context : Context
  assignments : OrderedMap Text Text

namespace Scope

def variableValue (s : Scope) (name : Text) : Except Warning Text :=
  match s.assignments.get? name with
  | some value => .ok value
  | none =>
    if name = ("HOME" : Text) then .ok s.context.home
    else if name = ("PID" : Text) then .ok (Text.ofInt s.context.process)
    else .error (.unknownVariable name)

def environmentValue (s : Scope) (name : Text) : Except Warning Text :=
  match s.context.environment.get? name with
  | some value => .ok value
  | none => .error (.missingEnvironment name)

def dateValue (s : Scope) (format : Text) : Except Warning Text :=
  (DateFormat.write s.context.now format).mapError (.badDateFormat format)

/-- The value of a name without a fallback. -/
def lookup (s : Scope) (name : Text) : Except Warning Text :=
  match Text.after? "ENV:" name, Text.after? "DATE:" name with
  | some inner, _ => s.environmentValue inner
  | none, some format => s.dateValue format
  | none, none => s.variableValue name

end Scope

end Macro

end Invocation
