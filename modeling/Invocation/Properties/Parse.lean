import Invocation.OrderedMap
import Invocation.Properties.Entry

/-!
# Property files

A property file is a map from keys to values. It is read as a whole or not at all; the first logical line that cannot
be read is to blame, by the number of the natural line where it starts.
-/

namespace Invocation

namespace Properties

inductive Fault where
  | unterminated
  | malformedEscape
deriving DecidableEq

structure Error where
  fault : Fault
  line : Nat
deriving DecidableEq

def Fault.message : Fault → Text
  | unterminated => "Unterminated line continuation"
  | malformedEscape => "Malformed \\uxxxx encoding"

def Error.message (e : Error) : Text := e.fault.message ++ " (line " ++ Text.ofNat e.line ++ ")"

/-- The key and the value of a logical line. -/
def LogicalLine.entry (l : LogicalLine) : Except Error (Text × Text) :=
  if l.complete then
    let (key, rest) := splitKey l.text
    match meaning? key, meaning? (afterSeparator rest) with
    | some k, some v => .ok (k, v)
    | _, _ => .error ⟨.malformedEscape, l.start⟩
  else .error ⟨.unterminated, l.start⟩

def entries (t : Text) : Except Error (List (Text × Text)) := (logicalLines t).mapM LogicalLine.entry

/-- The map that a property file defines. A key that is defined again keeps its place and takes the new value. -/
def parse (t : Text) : Except Error (OrderedMap Text Text) := (entries t).map OrderedMap.ofList

end Properties

end Invocation
