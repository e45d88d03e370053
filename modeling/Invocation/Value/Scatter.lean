import Invocation.Value.Basic

/-!
# Order of sets

The members of a set have places in a table. A number starts from its mark, which is the same for numbers of one amount,
and takes the first free place on its way. Members without a mark keep the order in which they are written.
-/

namespace Invocation

namespace Value

/-- The remainder of `m * 2^q` by a prime in whose arithmetic doubling 61 times changes nothing. -/
def remainder (m : Nat) (q : Int) : Nat := m * twoTo (q % 61).toNat % (twoTo 61 - 1)

/-- A mark has 64 bits; one stands for both minus one and minus two. -/
def signedMark (negative : Bool) (r : Nat) : Nat :=
  if !negative || r = 0 then r else twoTo 64 - max r 2

def mark? : Value → Option Nat
  | bool b => some (if b then 1 else 0)
  | int n => some (signedMark (n < 0) (remainder n.natAbs 0))
  | float x =>
    match Binary.ofFloat x with
    | .finite negative m q => some (signedMark negative (remainder m q))
    | .infinite negative => some (signedMark negative 314159)
    | .nan => none
  | _ => none

/-- The size of the table for so many members, which leaves more than half of it free if they are many. -/
def tableSize (count : Nat) : Nat := if count < 5 then 8 else twoTo (Nat.log2 (2 * count) + 1)

/-- The places on a way: ten in a row where the table has them, and then a jump that depends on the rest of the mark. -/
def way (size : Nat) : Nat → Nat → Nat → List Nat
  | 0, _, _ => []
  | jumps + 1, place, rest =>
    let row := if place + 9 < size then List.range' place 10 else [place]
    row ++ way size jumps ((place * 5 + 1 + rest / 32) % size) (rest / 32)

/-- The place of a member, given those that are taken. -/
def placeFor (size mark : Nat) (taken : List Nat) : Nat :=
  ((way size (size + 13) (mark % size) mark).find? fun place => !taken.contains place).getD size

/-- Members with their places, each given its place after those before it. -/
def placed (size : Nat) (members : List (Value × Nat)) : List (Nat × Value) :=
  members.foldl (fun found (v, mark) => (placeFor size mark (found.map Prod.fst), v) :: found) []

/-- The members of a set in its order. -/
def scattered (members : List Value) : List Value :=
  match members.mapM mark? with
  | none => members
  | some marks =>
    ((placed (tableSize members.length) (members.zip marks)).mergeSort fun a b => a.1 ≤ b.1).map Prod.snd

end Value

end Invocation
