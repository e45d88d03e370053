import Invocation.OrderedMap
import Invocation.Schema.Checked
import Invocation.Text.Utf8
import Invocation.Value.Rendering

/-!
# Fields

The kinds of data that fields hold: texts, truth values, choices, lists, mappings and records. Few things are
converted: bytes to the text that they spell, and some texts and numbers to truth values.
-/

namespace Invocation

namespace Schema

open Checked

abbrev Reads (α : Type) := Value → Checked α

/-! ## Single values -/

def text : Reads Text
  | .text t => good t
  | .bytes bs =>
    match Utf8.decode bs with
    | .ok t => good t
    | .error _ => fail .notUnicode
  | _ => fail .notText

def anything : Reads Value := good

/-- Null stands for something that is not there. -/
def orNull {α : Type} (read : Reads α) : Reads (Option α)
  | .null => good none
  | v => (read v).map some

/-- Words for a truth value, in any case. -/
def truthOfWord? (t : Text) : Option Bool :=
  let word := t.asciiLower
  if ["0", "off", "f", "false", "n", "no"].any fun w => word == Text.ofString w then some false
  else if ["1", "on", "t", "true", "y", "yes"].any fun w => word == Text.ofString w then some true
  else none

def truthOfInt? (n : Int) : Option Bool := if n = 0 then some false else if n = 1 then some true else none

def truthOfNumber (n : Int) : Checked Bool := ((truthOfInt? n).map good).getD (fail .unclearTruth)

/-- A number is looked at as a truth value if it fits into 64 bits. For one with a point both bounds are outside. -/
def truth : Reads Bool
  | .bool b => good b
  | .text t =>
    if t.hasSurrogate then fail .notUnicode
    else ((truthOfWord? t).map good).getD (fail .unclearTruth)
  | .bytes bs =>
    match Utf8.decode bs with
    | .ok t => ((truthOfWord? t).map good).getD (fail .unclearTruth)
    | .error _ => fail .unclearTruth
  | .int n => if -(twoTo 63 : Int) ≤ n ∧ n < twoTo 63 then truthOfNumber n else fail .notTruth
  | .float x =>
    match Value.integral? x with
    | some n => if -(twoTo 63 : Int) < n ∧ n < twoTo 63 then truthOfNumber n else fail .notTruth
    | none => fail .notTruth
  | _ => fail .notTruth

/-- One of several words. -/
def choice {α : Type} (choices : List α) (word : α → Text) : Reads α
  | .text t =>
    if t.hasSurrogate then fail .notUnicode
    else
      match choices.find? fun a => word a == t with
      | some a => good a
      | none => fail (.notChoice (choices.map word))
  | _ => fail (.notChoice (choices.map word))

/-! ## Collections -/

def itemsFrom {α : Type} (read : Reads α) (index : Nat) : List Value → List (Checked α)
  | [] => []
  | v :: vs => (read v).inside (.number index) :: itemsFrom read (index + 1) vs

def list {α : Type} (read : Reads α) : Reads (List α) := fun v =>
  match v.opened with
  | .list items | .set items => all (itemsFrom read 0 items)
  | _ => fail .notList

/-- How a key stands in a location: small integers as numbers, everything else as text. -/
def keyPart (k : Value) : Part :=
  match k, k.integer? with
  | .text t, _ => .name t.encodable
  | _, some n => if -(twoTo 63 : Int) ≤ n ∧ n < twoTo 63 then .number n else .name (Text.ofInt n)
  | _, none => .name (k.inner?.getD [])

/-- The key and the value of an entry; a fault of the key is marked as one. -/
def entry {α : Type} (read : Reads α) (e : Value × Value) : Checked (Text × α) :=
  let key := ((text e.1).inside (.name "[key]")).inside (keyPart e.1)
  let value := (read e.2).inside (keyPart e.1)
  Prod.mk <$> key <*> value

def mapping {α : Type} (read : Reads α) : Reads (OrderedMap Text α) := fun v =>
  match v.opened with
  | .mapping entries => (all (entries.map (entry read))).map OrderedMap.ofList
  | _ => fail .notMapping

/-! ## Records -/

/-- The named members of a record; other members are of no concern. -/
abbrev Members := List (Value × Value)

def record {α : Type} (name : String) (read : Members → Checked α) : Reads α := fun v =>
  match v.opened with
  | .mapping entries => read entries
  | _ => fail (.notRecord name)

def required {α : Type} (ms : Members) (name : String) (read : Reads α) : Checked α :=
  match Value.field? name ms with
  | some v => (read v).inside (.name name)
  | none => (fail .missing).inside (.name name)

def withDefault {α : Type} (ms : Members) (name : String) (absent : α) (read : Reads α) : Checked α :=
  match Value.field? name ms with
  | some v => (read v).inside (.name name)
  | none => good absent

end Schema

end Invocation
