import Invocation.Pattern.Basic
import Invocation.Text.Surrogates

/-!
# Checked data

Data is checked part by part. What is wrong with the parts is gathered in their order, each fault with its location;
only data without a fault has a result. A number that cannot be held ends the check at once.
-/

namespace Invocation

namespace Schema

/-! ## Faults -/

/-- A step on the way to a part: the name of a member or a number. -/
inductive Part where
  | name (t : Text)
  | number (n : Int)
deriving DecidableEq

inductive Fault where
  | missing
  | notText
  | notUnicode
  | notList
  | notMapping
  | notRecord (record : String)
  | notChoice (choices : List Text)
  | unclearTruth
  | notTruth
  | badPattern (source : Text) (fault : Pattern.Fault)
deriving DecidableEq

/-- Choices in quotes; the last one follows an `or`. -/
def choiceList (choices : List Text) : Text :=
  let quoted : List Text := choices.map fun t => "'" ++ t ++ "'"
  match quoted.getLast?, quoted.dropLast with
  | some last, _ :: _ => Text.joinWith ", " quoted.dropLast ++ " or " ++ last
  | some last, [] => last
  | none, _ => []

namespace Fault

/-- The short name of the kind of fault. -/
def kind : Fault → Text
  | missing => "missing"
  | notText => "string_type"
  | notUnicode => "string_unicode"
  | notList => "list_type"
  | notMapping => "dict_type"
  | notRecord _ => "model_type"
  | notChoice _ => "literal_error"
  | unclearTruth => "bool_parsing"
  | notTruth => "bool_type"
  | badPattern _ _ => "value_error"

def message : Fault → Text
  | missing => "Field required"
  | notText => "Input should be a valid string"
  | notUnicode => "Input should be a valid string, unable to parse raw data as a unicode string"
  | notList => "Input should be a valid list"
  | notMapping => "Input should be a valid dictionary"
  | notRecord record => "Input should be a valid dictionary or instance of " ++ record
  | notChoice choices => "Input should be " ++ choiceList choices
  | unclearTruth => "Input should be a valid boolean, unable to interpret input"
  | notTruth => "Input should be a valid boolean"
  | badPattern source fault =>
    match fault with
    | .form _ _ => Text.encodable ("Value error, Invalid regex pattern '" ++ source ++ "': " ++ fault.message source)
    | _ => "Value error, " ++ fault.message source

end Fault

/-- A fault and where it is. -/
structure Detail where
  location : List Part
  fault : Fault
deriving DecidableEq

/-! ## Results -/

/-- A result, everything that stands against one, or what has ended the check. -/
inductive Checked (α : Type) where
  | good (a : α)
  | bad (details : List Detail)
  | halted (o : Pattern.Overflow)

namespace Checked

variable {α β : Type}

def fail (f : Fault) : Checked α := bad [⟨[], f⟩]

def map (f : α → β) : Checked α → Checked β
  | good a => good (f a)
  | bad ds => bad ds
  | halted o => halted o

/-- The faults of both, if one of them has any. The second one is not checked where the first one has been ended. -/
def ap : Checked (α → β) → Checked α → Checked β
  | halted o, _ => halted o
  | _, halted o => halted o
  | good f, good a => good (f a)
  | good _, bad ds => bad ds
  | bad ds, good _ => bad ds
  | bad ds, bad es => bad (ds ++ es)

instance : Applicative Checked where
  pure := good
  map := map
  seq f a := ap f (a ())

/-- The data is part of something larger. -/
def inside (p : Part) : Checked α → Checked α
  | bad ds => bad (ds.map fun d => { d with location := p :: d.location })
  | c => c

/-- All results in order, or all faults in order. -/
def all : List (Checked α) → Checked (List α)
  | [] => good []
  | c :: cs => ap (map List.cons c) (all cs)

/-- A check that is only made where nothing has failed before. -/
def andThen (c : Checked α) (next : α → Checked β) : Checked β :=
  match c with
  | good a => next a
  | bad ds => bad ds
  | halted o => halted o

/-- All results in order, or the first check without one. -/
def untilBad : List (Checked α) → Checked (List α)
  | [] => good []
  | c :: cs => c.andThen fun a => map (a :: ·) (untilBad cs)

end Checked

end Schema

end Invocation
