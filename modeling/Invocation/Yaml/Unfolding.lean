import Invocation.Yaml.Content

/-!
# Values of documents

The contents of the nodes put together. A collection that is part of itself cannot be written out to the end: it gets a
label, and where it would come again there is a reference to it.
-/

namespace Invocation

namespace Yaml

/-- A value, and the labels of the references in it that lead out of it. -/
structure Unfolded where
  value : Value
  outward : List NodeId

/-- The values of collections, of those without references that lead out of them. -/
abbrev Unfolder := StateM (List (NodeId × Value))

def Holding.isMapping : Holding → Bool
  | .mapping _ => true
  | _ => false

/-- Several values made into one. -/
def Unfolded.join (make : List Value → Value) (us : List Unfolded) : Unfolded :=
  ⟨make (us.map Unfolded.value), (us.flatMap Unfolded.outward).eraseDups⟩

/-- What a collection holds, given the values of its parts. -/
def Holding.unfold (unfold : Part → Unfolder Unfolded) : Holding → Unfolder Unfolded
  | .list items => do return .join .list (← items.mapM unfold)
  | .pairs ps => do
    let us ← ps.mapM fun (a, b) => do
      return Unfolded.join (fun | [v, w] => .pair v w | vs => .list vs) [← unfold a, ← unfold b]
    return .join .list us
  | .mapping entries => do
    let us ← entries.mapM fun e => unfold e.2
    return .join (fun vs => .mapping ((entries.map Prod.fst).zip vs)) us
  | .set members => return ⟨.set members, []⟩

/-- The value of a part inside the collections `around`. -/
def Content.unfold (c : Content) : Nat → List NodeId → Part → Unfolder Unfolded
  | _, _, .value v => return ⟨v, []⟩
  | 0, _, .collection _ => return ⟨.null, []⟩
  | fuel + 1, around, .collection id => do
    match (← get).lookup id, c.holdings.lookup id with
    | some v, _ => return ⟨v, []⟩
    | none, none => return ⟨.null, []⟩
    | none, some h =>
      if around.contains id then return ⟨.enclosing id h.isMapping, [id]⟩
      let u ← h.unfold (c.unfold fuel (id :: around))
      let v := if u.outward.isEmpty then u.value else .labelled id u.value
      let outward := u.outward.filter (· ≠ id)
      if outward.isEmpty then modify fun known => (id, v) :: known
      return ⟨v, outward⟩

/-- The value of a document. -/
def Content.value (c : Content) : Value := ((c.unfold (c.holdings.length + 1) [] c.root).run []).1.value

end Yaml

end Invocation
