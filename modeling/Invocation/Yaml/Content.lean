import Invocation.Text.Base64
import Invocation.Value.Scatter
import Invocation.Yaml.Node
import Invocation.Yaml.Number

/-!
# Contents of nodes

Every node has a content that its tag asks for. A scalar has a value at once; a collection is there at once but filled
later, in the order in which collections have been come upon, so that it can be part of itself.
-/

namespace Invocation

namespace Yaml

/-! ## Scalars -/

def truthOf (content : Text) : Except ValueFault Bool :=
  let word := content.lower
  if isOneOfWords ["yes", "true", "on"] word then .ok true
  else if isOneOfWords ["no", "false", "off"] word then .ok false
  else .error (.truth word)

/-- How code points that are not ASCII are reported. -/
def asciiMessage (t : Text) : Option Text :=
  let isAscii := fun (c : CodePoint) => decide (c.toNat < 0x80)
  match t.dropWhile isAscii with
  | [] => none
  | c :: r =>
    let first := (t.takeWhile isAscii).length
    let count := (r.takeWhile fun d => !isAscii d).length
    let escape : Text :=
      if c.toNat < 0x100 then "\\x" ++ Text.ofHex 2 c.toNat
      else if c.toNat < 0x10000 then "\\u" ++ Text.ofHex 4 c.toNat
      else "\\U" ++ Text.ofHex 8 c.toNat
    let place : Text :=
      if count = 0 then "character '" ++ escape ++ "' in position " ++ Text.ofNat first
      else "characters in position " ++ Text.ofNat first ++ "-" ++ Text.ofNat (first + count)
    some ("'ascii' codec can't encode " ++ place ++ ": ordinal not in range(128)")

def bytesOf (content : Text) : Except Problem (List UInt8) :=
  match asciiMessage content with
  | some e => .error (.notAscii e)
  | none => (Base64.decode content).mapError fun f => .badBase64 f.message

/-- The kinds of values that are made of a scalar. -/
inductive ScalarKind where
  | null
  | bool
  | int
  | float
  | binary
  | timestamp
  | str
deriving DecidableEq

def scalarKind? (tag : Text) : Option ScalarKind :=
  [("null", ScalarKind.null), ("bool", .bool), ("int", .int), ("float", .float), ("binary", .binary),
    ("timestamp", .timestamp), ("str", .str)].findSome? fun (name, kind) =>
      if tag = standardTag name then some kind else none

inductive CollectionKind where
  | seq
  | map
  | set
  | omap
  | pairs
deriving DecidableEq

def collectionKind? (tag : Text) : Option CollectionKind :=
  [("seq", CollectionKind.seq), ("map", .map), ("set", .set), ("omap", .omap), ("pairs", .pairs)].findSome?
    fun (name, kind) => if tag = standardTag name then some kind else none

def scalarValue (kind : ScalarKind) (content : Text) (m : Mark) : Except Fault Value :=
  match kind with
  | .null => .ok .null
  | .bool => ((truthOf content).map .bool).mapError .value
  | .int => ((integer content).map .int).mapError .value
  | .float => ((float content).map .float).mapError .value
  | .binary => ((bytesOf content).map .bytes).mapError fun p => .form none p (some m)
  | .timestamp => (timestamp content).mapError .value
  | .str => .ok (.text content)

/-! ## Parts -/

/-- What stands for a node inside a collection: a value, or the collection of the node. -/
inductive Part where
  | value (v : Value)
  | collection (id : NodeId)

/-- What a collection holds. -/
inductive Holding where
  | list (items : List Part)
  | pairs (pairs : List (Part × Part))
  | mapping (entries : List (Value × Part))
  | set (members : List Value)

/-- What has been filled so far, and the collections that wait to be filled. -/
structure Filling where
  graph : Graph
  begun : List NodeId
  waiting : List NodeId
  filled : List (NodeId × Holding)

abbrev Filler := StateT Filling (Except Fault)

namespace Filler

def fail {α : Type} (a : Option Activity) (p : Problem) (id : NodeId) : Filler α := do
  throw (.form a p (some ((← get).graph.node id).mark))

/-- The text of a scalar. A mapping stands for the text of its key `=`. -/
def scalarText (id : NodeId) : Nat → Filler Text
  | 0 => throw (.value .scalarInItself)
  | fuel + 1 => do
    let g := (← get).graph
    match g.body id with
    | .scalar content => return content
    | .sequence _ => fail none (.wrongNode "scalar" "sequence") id
    | .mapping pairs =>
      match pairs.find? fun p => g.hasTag "value" p.1 with
      | some (_, v) => scalarText v fuel
      | none => fail none (.wrongNode "scalar" "mapping") id

def scalar (id : NodeId) (kind : ScalarKind) : Filler Value := do
  let g := (← get).graph
  let content ← scalarText id (g.size + 1)
  match kind, g.body id with
  | .timestamp, .mapping _ => throw (.value .timestampOfMapping)
  | _, _ => scalarValue kind content (g.node id).mark

/-- What a node is. A collection that has not been come upon before is going to be filled. -/
def part (id : NodeId) : Filler Part := do
  let tag := ((← get).graph.node id).tag
  match scalarKind? tag, collectionKind? tag with
  | some kind, _ => return .value (← scalar id kind)
  | none, some _ =>
    modify fun s =>
      if s.begun.contains id then s else { s with begun := id :: s.begun, waiting := s.waiting ++ [id] }
    return .collection id
  | none, none => fail none (.unknownTag tag) id

/-! ## Keys -/

/-- A key. Numbers that equal nothing, not even themselves, are told apart by the nodes that they come from. -/
structure Key where
  value : Value
  origin : Option NodeId

def Key.isUnequal (k : Key) : Bool :=
  match k.value with
  | .float x => x.isNaN
  | _ => false

def Key.isSame (k l : Key) : Bool :=
  Value.sameKey k.value l.value || (k.isUnequal && l.isUnequal && k.origin == l.origin)

/-- Where a scalar comes from. What is no number in the usual spelling is the same one everywhere. -/
def originOf (id : NodeId) : Filler (Option NodeId) := do
  let content ← scalarText id ((← get).graph.size + 1)
  return if isOneOfWords [".nan"] (withoutSign (floatSpelling content)) then none else some id

def key (owner id : NodeId) : Filler Key := do
  match ← part id with
  | .value v => return ⟨v, ← originOf id⟩
  | .collection _ =>
    let a : Activity := ⟨"while constructing a mapping", some ((← get).graph.node owner).mark⟩
    fail (some a) .keyIsCollection id

/-- The part for a key set in place or at the end; the key keeps its first spelling. -/
def setPart (k : Key) (p : Part) : List (Key × Part) → List (Key × Part)
  | [] => [(k, p)]
  | e :: r => if e.1.isSame k then (e.1, p) :: r else e :: setPart k p r

/-! ## Collections -/

/-- The entries of a mapping, together with those of the mappings that are merged into it. -/
def entries (id : NodeId) : Filler (List (Value × Part)) := do
  match (← get).graph.body id with
  | .mapping _ =>
    let g ← (← get).graph.merged id
    modify fun s => { s with graph := g }
    let found ← (g.pairs id).foldlM (fun found (k, v) => do
      let k ← key id k
      return setPart k (← part v) found) []
    return found.map fun e => (e.1.value, e.2)
  | b => fail none (.wrongNode "mapping" b.kind) id

/-- The pairs that mappings of one pair each stand for. -/
def singlePairs (what : String) (id : NodeId) : Filler (List (Part × Part)) := do
  let g := (← get).graph
  let a : Activity := ⟨what, some (g.node id).mark⟩
  match g.body id with
  | .sequence items =>
    items.mapM fun item =>
      match g.body item with
      | .mapping [(k, v)] => do return (← part k, ← part v)
      | .mapping pairs => fail (some a) (.singlePairExpected pairs.length) item
      | b => fail (some a) (.singlePairMissing b.kind) item
  | b => fail (some a) (.listExpected b.kind) id

def items (id : NodeId) : Filler (List Part) := do
  match (← get).graph.body id with
  | .sequence items => items.mapM part
  | b => fail none (.wrongNode "sequence" b.kind) id

def holding (id : NodeId) : CollectionKind → Filler Holding
  | .seq => .list <$> items id
  | .map => .mapping <$> entries id
  | .set => (fun es => .set (Value.scattered (es.map Prod.fst))) <$> entries id
  | .omap => .pairs <$> singlePairs "while constructing an ordered map" id
  | .pairs => .pairs <$> singlePairs "while constructing pairs" id

/-- Fills the collections that wait, and those that are come upon meanwhile. -/
def fillAll : Nat → Filler Unit
  | 0 => return
  | fuel + 1 => do
    match (← get).waiting with
    | [] => return
    | id :: waiting =>
      modify fun s => { s with waiting }
      if let some kind := collectionKind? ((← get).graph.node id).tag then
        let h ← holding id kind
        modify fun s => { s with filled := (id, h) :: s.filled }
      fillAll fuel

end Filler

/-- What the root of a document is, and what the collections hold. -/
structure Content where
  root : Part
  holdings : List (NodeId × Holding)

def Graph.content (g : Graph) (root : NodeId) : Except Fault Content := do
  let fill : Filler Part := do
    let p ← Filler.part root
    Filler.fillAll (g.size + 1)
    return p
  let (p, s) ← fill.run ⟨g, [], [], []⟩
  return ⟨p, s.filled⟩

end Yaml

end Invocation
