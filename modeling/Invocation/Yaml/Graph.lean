import Invocation.Yaml.Resolution
import Invocation.Yaml.Fault

/-!
# Graphs of YAML documents

The nodes of a document have numbers and name each other by them. An alias is the number of the node that it stands for,
so a node can be part of several others, and also of itself.
-/

namespace Invocation

namespace Yaml

/-- The number of a node. -/
abbrev NodeId := Nat

inductive Body where
  | scalar (content : Text)
  | sequence (items : List NodeId)
  | mapping (pairs : List (NodeId × NodeId))
deriving DecidableEq, Inhabited

/-- How the kind of a node is named in a report. -/
def Body.kind : Body → String
  | scalar _ => "scalar"
  | sequence _ => "sequence"
  | mapping _ => "mapping"

structure Node where
  tag : Text
  body : Body
  mark : Mark
deriving DecidableEq, Inhabited

/-- A scalar that is not there. -/
def Node.absent (m : Mark) : Node := ⟨resolvedTag [], .scalar [], m⟩

abbrev Graph := Array Node

namespace Graph

def node (g : Graph) (id : NodeId) : Node := g.getD id default

def body (g : Graph) (id : NodeId) : Body := (g.node id).body

def hasTag (g : Graph) (name : String) (id : NodeId) : Bool := (g.node id).tag = standardTag name

def setBody (g : Graph) (id : NodeId) (body : Body) : Graph := g.modify id fun n => { n with body }

/-- The pairs of a mapping. -/
def pairs (g : Graph) (id : NodeId) : List (NodeId × NodeId) :=
  match g.body id with
  | .mapping pairs => pairs
  | _ => []

end Graph

/-! ## Merging -/

/-- What stands between equal signs is a key like any other: its tag becomes that of a text. -/
def Graph.asText (g : Graph) (key : NodeId) : Graph :=
  if g.hasTag "value" key then g.modify key fun n => { n with tag := standardTag "str" } else g

/-- The pairs in front of the first one that asks for a merge, the node to be merged, and the pairs behind. -/
def Graph.firstMerge (g : Graph) (before : List (NodeId × NodeId)) :
    List (NodeId × NodeId) → Option (List (NodeId × NodeId) × NodeId × List (NodeId × NodeId))
  | [] => none
  | (k, v) :: r =>
    if g.hasTag "merge" k then some (before.reverse, v, r) else g.firstMerge ((k, v) :: before) r

/-- How many pairs ask for a merge. -/
def Graph.mergeCount (g : Graph) : Nat :=
  g.foldl (fun count n =>
    match n.body with
    | .mapping pairs => count + pairs.countP fun p => g.hasTag "merge" p.1
    | _ => count) 0

abbrev Merging := StateT Graph (Except Fault)

namespace Merging

/-- A mapping cannot take over pairs from the node `source`. -/
def fail {α : Type} (id source : NodeId) (wanted : String) : Merging α := do
  let g ← get
  let a : Activity := ⟨"while constructing a mapping", some (g.node id).mark⟩
  throw (.form (some a) (.badMerge wanted (g.body source).kind) (some (g.node source).mark))

/-- Puts pairs in front of those of a mapping, and yields them all. -/
def prepend (id : NodeId) (taken : List (NodeId × NodeId)) : Merging (List (NodeId × NodeId)) := do
  let pairs := taken ++ (← get).pairs id
  modify fun g => g.setBody id (.mapping pairs)
  return pairs

/-- The pairs that a mapping takes over, behind those that it has taken over already. The pairs that ask for them are
taken out before what they name is looked at, so that a mapping which names itself takes over what is left. -/
def takeOver (id : NodeId) : Nat → List (NodeId × NodeId) → Merging (List (NodeId × NodeId))
  | 0, taken => return taken
  | fuel + 1, taken => do
    let g ← get
    let pairsOf := fun (source : NodeId) => do prepend source (← takeOver source fuel [])
    match g.firstMerge [] (g.pairs id) with
    | none =>
      set ((g.pairs id).foldl (fun g p => g.asText p.1) g)
      return taken
    | some (before, source, behind) => do
      set ((before.foldl (fun g p => g.asText p.1) g).setBody id (.mapping (before ++ behind)))
      match g.body source with
      | .mapping _ => do takeOver id fuel (taken ++ (← pairsOf source))
      | .sequence items => do
        let parts ← items.mapM fun item => do
          match g.body item with
          | .mapping _ => pairsOf item
          | _ => fail id item "a mapping"
        takeOver id fuel (taken ++ parts.reverse.flatten)
      | .scalar _ => fail id source "a mapping or list of mappings"

end Merging

/-- The graph after a mapping has taken over the pairs that it asks for. Of several mappings the first counts most, and
its own pairs count more than theirs. -/
def Graph.merged (g : Graph) (id : NodeId) : Except Fault Graph := do
  let merge : Merging Unit := do let _ ← Merging.prepend id (← Merging.takeOver id (g.mergeCount + 1) [])
  return (← merge.run g).2

end Yaml

end Invocation
