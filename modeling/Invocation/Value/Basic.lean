import Invocation.Calendar.Basic
import Invocation.Decimal.Shortest

/-!
# Values

The data that a specification file can hold. The entries of a mapping keep their order, and no two keys of one
mapping count as the same. A collection can hold itself; it then has a label, and inside of it stands a reference to it.
-/

namespace Invocation

inductive Value where
  | null
  | bool (b : Bool)
  | int (n : Int)
  | float (x : Float)
  | text (t : Text)
  | bytes (bs : List UInt8)
  | date (d : Date)
  | timestamp (t : Timestamp)
  | list (items : List Value)
  | pair (first second : Value)
  | mapping (entries : List (Value × Value))
  | set (members : List Value)
  /-- A collection that a reference inside of it stands for. -/
  | labelled (label : Nat) (collection : Value)
  /-- The collection with the label, which is around this place. -/
  | enclosing (label : Nat) (isMapping : Bool)
deriving Inhabited

namespace Value

/-- Whether the value counts as nothing: null, false, zero, or empty. -/
def isEmpty : Value → Bool
  | null => true
  | bool b => !b
  | int n => n == 0
  | float x => x == 0
  | text t => t.isEmpty
  | bytes bs => bs.isEmpty
  | date _ | timestamp _ | pair _ _ | labelled _ _ | enclosing _ _ => false
  | list items => items.isEmpty
  | mapping entries => entries.isEmpty
  | set members => members.isEmpty

/-- The integer that a number without a fraction stands for. -/
def integral? (x : Float) : Option Int :=
  match Binary.ofFloat x with
  | .finite negative m q =>
    let sign : Int := if negative then -1 else 1
    if 0 ≤ q then some (sign * (m * twoTo q.toNat))
    else if m % twoTo (-q).toNat = 0 then some (sign * (m / twoTo (-q).toNat : Nat))
    else none
  | _ => none

/-- Truth values and integers as integers. -/
def integer? : Value → Option Int
  | bool b => some (if b then 1 else 0)
  | int n => some n
  | _ => none

/-- Whether two keys are one: numbers by their amount, whatever their kind, everything else by kind and content. -/
def sameKey : Value → Value → Bool
  | null, null => true
  | text s, text t => s == t
  | bytes a, bytes b => a == b
  | date a, date b => a == b
  | timestamp a, timestamp b => a.offset.isSome == b.offset.isSome && a.instant == b.instant
  | float x, float y => x == y
  | float x, v => (integral? x).isSome && integral? x == integer? v
  | v, float y => (integral? y).isSome && integral? y == integer? v
  | v, w => (integer? v).isSome && integer? v == integer? w

/-! ## Collections that hold themselves -/

mutual

/-- The value with `whole` in place of the references to the label. -/
def refill (label : Nat) (whole : Value) : Value → Value
  | enclosing l isMapping => if l = label then whole else enclosing l isMapping
  | labelled l v => if l = label then labelled l v else labelled l (refill label whole v)
  | list items => list (refillAll label whole items)
  | pair v w => pair (refill label whole v) (refill label whole w)
  | mapping entries => mapping (refillEntries label whole entries)
  | v => v

def refillAll (label : Nat) (whole : Value) : List Value → List Value
  | [] => []
  | v :: vs => refill label whole v :: refillAll label whole vs

def refillEntries (label : Nat) (whole : Value) : List (Value × Value) → List (Value × Value)
  | [] => []
  | (k, v) :: es => (k, refill label whole v) :: refillEntries label whole es

end

/-- The value without its label. Each part of it is a value of its own again. -/
def opened : Value → Value
  | labelled l v => refill l (labelled l v) v
  | v => v

/-! ## Keys -/

/-- The value of a key set in place or at the end; the key keeps its first spelling. -/
def setEntry (k v : Value) : List (Value × Value) → List (Value × Value)
  | [] => [(k, v)]
  | e :: r => if sameKey e.1 k then (e.1, v) :: r else e :: setEntry k v r

def ofEntries (entries : List (Value × Value)) : List (Value × Value) :=
  entries.foldl (fun kept e => setEntry e.1 e.2 kept) []

/-- The value of a key that is a text. -/
def field? (name : Text) (entries : List (Value × Value)) : Option Value :=
  (entries.find? fun e => match e.1 with | text t => t == name | _ => false).map Prod.snd

end Value

end Invocation
