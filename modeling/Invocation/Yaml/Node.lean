import Invocation.Yaml.Graph
import Invocation.Yaml.Tokens

/-!
# Nodes of YAML documents

The graph that the tokens of a document describe. Anchors name nodes, and an alias stands for the node that has its
name, which may still be open.
-/

namespace Invocation

namespace Yaml

/-! ## Reading tokens -/

structure NodeState where
  tokens : List Token
  /-- What comes behind the last token. -/
  fault : Option Fault
  handles : List (Text × Text)
  anchors : List (Text × NodeId)
  graph : Graph

abbrev NodeReader := StateT NodeState (Except Fault)

namespace NodeReader

/-- The next token, which has to be there unless a fault is. -/
def peek : NodeReader Token := do
  match (← get).tokens, (← get).fault with
  | t :: _, _ => return t
  | [], some f => throw f
  | [], none => return ⟨.streamEnd, default⟩

def next : NodeReader Token := do
  let t ← peek
  modify fun s => { s with tokens := s.tokens.drop 1 }
  return t

def symbol : NodeReader Symbol := do return (← peek).symbol

def accept (s : Symbol) : NodeReader Bool := do
  if (← symbol) = s then
    let _ ← next
    return true
  else return false

def fail {α : Type} (a : Option Activity) (p : Problem) (m : Mark) : NodeReader α := throw (.form a p (some m))

def add (n : Node) : NodeReader NodeId :=
  modifyGet fun s => (s.graph.size, { s with graph := s.graph.push n })

def absent (m : Mark) : NodeReader NodeId := add (.absent m)

end NodeReader

open NodeReader

/-! ## Properties of nodes -/

/-- What stands in front of a node: its name, its tag, and where the first of them begins. -/
structure NodeProperties where
  anchor : Option Text
  tag : Option Text
  start : Option Mark

/-- The handles that every document knows. -/
def standardHandles : List (Text × Text) := [("!", "!"), ("!!", standardTag "")]

/-- The tag that is meant by the tag as it is written. -/
def fullTag (start at_ : Mark) (t : WrittenTag) : NodeReader Text := do
  match t.handle with
  | none => return t.suffix
  | some h =>
    match (← get).handles.lookup h with
    | some lead => return lead ++ t.suffix
    | none => fail (some ⟨"while parsing a node", some start⟩) (.unknownHandle h) at_

def nodeProperties : NodeReader NodeProperties := do
  let first ← peek
  match first.symbol with
  | .anchor name =>
    let _ ← next
    let second ← peek
    match second.symbol with
    | .tag t =>
      let _ ← next
      return ⟨some name, some (← fullTag first.mark second.mark t), some first.mark⟩
    | _ => return ⟨some name, none, some first.mark⟩
  | .tag t =>
    let _ ← next
    match (← symbol) with
    | .anchor name =>
      let _ ← next
      return ⟨some name, some (← fullTag first.mark first.mark t), some first.mark⟩
    | _ => return ⟨none, some (← fullTag first.mark first.mark t), some first.mark⟩
  | _ => return ⟨none, none, none⟩

/-- The node that an alias stands for. -/
def aliased (name : Text) (m : Mark) : NodeReader NodeId := do
  match (← get).anchors.lookup name with
  | some id => return id
  | none => fail none (.unknownAlias name) m

/-- A new node, which may have a name that no other node has. -/
def addNamed (anchor : Option Text) (n : Node) : NodeReader NodeId := do
  match anchor with
  | none => add n
  | some name =>
    match (← get).anchors.lookup name with
    | some first =>
      let a : Activity := ⟨"found duplicate anchor " ++ name.quoted ++ "; first occurrence",
        some ((← get).graph.node first).mark⟩
      fail (some a) .secondAnchor n.mark
    | none =>
      let id ← add n
      modify fun s => { s with anchors := (name, id) :: s.anchors }
      return id

/-- A new collection. It has its name before its parts are read. -/
def addCollection (anchor : Option Text) (tag : Text) (start : Mark) (read : NodeReader Body) : NodeReader NodeId := do
  let id ← addNamed anchor ⟨tag, .sequence [], start⟩
  let body ← read
  modify fun s => { s with graph := s.graph.setBody id body }
  return id

/-- The tag of a scalar: the one that it has, or the one that its content asks for. -/
def scalarTag (tag : Option Text) (content : Text) (plain : Bool) : Text :=
  match tag with
  | some t => if t = ("!" : Text) then resolvedTag content else t
  | none => if plain then resolvedTag content else standardTag "str"

/-- The tag of a collection. -/
def collectionTag (tag : Option Text) (standard : String) : Text :=
  match tag with
  | some t => if t = ("!" : Text) then standardTag standard else t
  | none => standardTag standard

/-! ## Nodes -/

/-- Where a node stands: in a block, as the value of a block mapping, where a sequence need not be indented, or between
brackets. -/
inductive Place where
  | block
  | blockValue
  | flow
deriving DecidableEq

/-- Symbols that no node can begin with, in a block mapping. -/
def endsBlockValue : Symbol → Bool
  | .key | .value | .blockEnd => true
  | _ => false

mutual

def node (fuel : Nat) (place : Place) : NodeReader NodeId :=
  match fuel with
  | 0 => do absent (← peek).mark
  | fuel + 1 => do
    let first ← peek
    match first.symbol with
    | .reference name =>
      let _ ← next
      aliased name first.mark
    | _ =>
      let p ← nodeProperties
      let token ← peek
      let start := p.start.getD token.mark
      let sequence := addCollection p.anchor (collectionTag p.tag "seq") start
      let mapping := addCollection p.anchor (collectionTag p.tag "map") start
      match token.symbol, place with
      | .entry, .blockValue => sequence do return .sequence (← indentlessItems fuel [])
      | .scalar content plain, _ =>
        let _ ← next
        addNamed p.anchor ⟨scalarTag p.tag content plain, .scalar content, start⟩
      | .flowSequenceStart, _ => sequence do
          let _ ← next
          return .sequence (← flowItems fuel token.mark [])
      | .flowMappingStart, _ => mapping do
          let _ ← next
          return .mapping (← flowPairs fuel token.mark [])
      | .blockSequenceStart, .block | .blockSequenceStart, .blockValue => sequence do
          let _ ← next
          return .sequence (← blockItems fuel token.mark [])
      | .blockMappingStart, .block | .blockMappingStart, .blockValue => mapping do
          let _ ← next
          return .mapping (← blockPairs fuel token.mark [])
      | _, _ =>
        if p.anchor.isSome || p.tag.isSome then addNamed p.anchor ⟨scalarTag p.tag [] true, .scalar [], start⟩
        else
          let what := if place = .flow then "while parsing a flow node" else "while parsing a block node"
          fail (some ⟨what, some start⟩) (.expectedToken "the node content" token.symbol.name) token.mark

/-- The items of a sequence that is indented; those read so far come last first. -/
def blockItems (fuel : Nat) (start : Mark) (items : List NodeId) : NodeReader (List NodeId) :=
  match fuel with
  | 0 => return items.reverse
  | fuel + 1 => do
    let token ← next
    match token.symbol with
    | .entry =>
      match ← symbol with
      | .entry | .blockEnd => blockItems fuel start ((← absent token.behind) :: items)
      | _ => blockItems fuel start ((← node fuel .block) :: items)
    | .blockEnd => return items.reverse
    | s =>
      fail (some ⟨"while parsing a block collection", some start⟩) (.expectedToken "<block end>" s.name) token.mark

/-- The items of a sequence that has the indentation of the mapping around it. -/
def indentlessItems (fuel : Nat) (items : List NodeId) : NodeReader (List NodeId) :=
  match fuel with
  | 0 => return items.reverse
  | fuel + 1 => do
    let token ← peek
    if ← accept .entry then
      match ← symbol with
      | .entry | .key | .value | .blockEnd => indentlessItems fuel ((← absent token.behind) :: items)
      | _ => indentlessItems fuel ((← node fuel .block) :: items)
    else return items.reverse

/-- A part of a block mapping, which may be missing at `m`. -/
def blockPart (fuel : Nat) (m : Mark) : NodeReader NodeId :=
  match fuel with
  | 0 => absent m
  | fuel + 1 => do if endsBlockValue (← symbol) then absent m else node fuel .blockValue

/-- The pairs of a block mapping. Either half of a pair may be missing. -/
def blockPairs (fuel : Nat) (start : Mark) (pairs : List (NodeId × NodeId)) : NodeReader (List (NodeId × NodeId)) :=
  match fuel with
  | 0 => return pairs.reverse
  | fuel + 1 => do
    let token ← next
    match token.symbol with
    | .key =>
      let k ← blockPart fuel token.behind
      let v ← blockValue fuel
      blockPairs fuel start ((k, v) :: pairs)
    | .blockEnd => return pairs.reverse
    | s =>
      fail (some ⟨"while parsing a block mapping", some start⟩) (.expectedToken "<block end>" s.name) token.mark

/-- The value of a pair of a block mapping. -/
def blockValue (fuel : Nat) : NodeReader NodeId :=
  match fuel with
  | 0 => do absent (← peek).mark
  | fuel + 1 => do
    let token ← peek
    if ← accept .value then blockPart fuel token.behind else absent token.mark

/-- A part between brackets, which is missing before a comma, a closing `end_`, or the colon of a key. -/
def flowPart (fuel : Nat) (end_ : Symbol) (isKey : Bool) (m : Mark) : NodeReader NodeId :=
  match fuel with
  | 0 => absent m
  | fuel + 1 => do
    let s ← symbol
    if s = .flowEntry || s = end_ || (isKey && s = .value) then absent m else node fuel .flow

/-- The value of a pair between brackets. -/
def flowValue (fuel : Nat) (end_ : Symbol) : NodeReader NodeId :=
  match fuel with
  | 0 => do absent (← peek).mark
  | fuel + 1 => do
    let token ← peek
    if ← accept .value then flowPart fuel end_ false token.behind else absent token.mark

/-- The items between brackets. A single pair among them is a mapping of its own. -/
def flowItems (fuel : Nat) (start : Mark) (items : List NodeId) : NodeReader (List NodeId) :=
  match fuel with
  | 0 => return items.reverse
  | fuel + 1 => do
    if ← accept .flowSequenceEnd then return items.reverse
    let comma ← peek
    if !items.isEmpty then
      if !(← accept .flowEntry) then
        fail (some ⟨"while parsing a flow sequence", some start⟩) (.gotToken "',' or ']'" comma.symbol.name) comma.mark
    let token ← peek
    if ← accept .key then
      let item ← addCollection none (standardTag "map") token.mark do
        let k ← flowPart fuel .flowSequenceEnd true token.behind
        let v ← flowValue fuel .flowSequenceEnd
        return .mapping [(k, v)]
      flowItems fuel start (item :: items)
    else if token.symbol = .flowSequenceEnd then flowItems fuel start items
    else
      let item ← node fuel .flow
      flowItems fuel start (item :: items)

/-- The pairs between braces. A node without a colon behind it is a key. -/
def flowPairs (fuel : Nat) (start : Mark) (pairs : List (NodeId × NodeId)) : NodeReader (List (NodeId × NodeId)) :=
  match fuel with
  | 0 => return pairs.reverse
  | fuel + 1 => do
    if ← accept .flowMappingEnd then return pairs.reverse
    let comma ← peek
    if !pairs.isEmpty then
      if !(← accept .flowEntry) then
        fail (some ⟨"while parsing a flow mapping", some start⟩) (.gotToken "',' or '\x7d'" comma.symbol.name)
          comma.mark
    let token ← peek
    if ← accept .key then
      let k ← flowPart fuel .flowMappingEnd true token.behind
      let v ← flowValue fuel .flowMappingEnd
      flowPairs fuel start ((k, v) :: pairs)
    else if token.symbol = .flowMappingEnd then flowPairs fuel start pairs
    else
      let k ← node fuel .flow
      let v ← absent (← peek).mark
      flowPairs fuel start ((k, v) :: pairs)

end

/-! ## Documents -/

/-- The directives before a document. -/
def directives (version : Bool) (handles : List (Text × Text)) : Nat → NodeReader (List (Text × Text))
  | 0 => return handles
  | fuel + 1 => do
    let token ← peek
    match token.symbol with
    | .version major _ =>
      let _ ← next
      if version then fail none .duplicateVersion token.mark
      if major ≠ 1 then fail none .incompatibleVersion token.mark
      directives true handles fuel
    | .tagHandle h lead =>
      let _ ← next
      if (handles.lookup h).isSome then fail none (.duplicateHandle h) token.mark
      directives version (handles ++ [(h, lead)]) fuel
    | .otherDirective =>
      let _ ← next
      directives version handles fuel
    | _ => return handles

/-- Marks that end a document. -/
def documentEnds : Nat → NodeReader Unit
  | 0 => return
  | fuel + 1 => do if ← accept .documentEnd then documentEnds fuel

/-- What begins an explicit document; nothing if the text ends here. -/
def documentStart : NodeReader Bool := do
  let count := (← get).tokens.length + 1
  documentEnds count
  if (← symbol) = .streamEnd then return false
  let handles ← directives false [] count
  modify fun s => { s with handles := handles ++ standardHandles }
  let token ← peek
  if !(← accept .documentStart) then
    fail none (.expectedToken "'<document start>'" token.symbol.name) token.mark
  return true

/-- The content of a document, which may be missing if its beginning is marked. -/
def documentContent (marked : Bool) : NodeReader NodeId := do
  let token ← peek
  let fuel := 4 * (← get).tokens.length + 4
  match token.symbol with
  | .documentStart | .documentEnd | .streamEnd => if marked then absent token.mark else node fuel .block
  | s => if marked && s.isDirective then absent token.mark else node fuel .block

/-- The one document of a text, if there is one. -/
def singleDocument : NodeReader (Option NodeId) := do
  let first ← symbol
  let isMarked := first = .documentStart || first = .streamEnd || first.isDirective
  if isMarked then
    if !(← documentStart) then return none
  let root ← documentContent isMarked
  documentEnds ((← get).tokens.length + 1)
  let token ← peek
  if ← documentStart then
    let start := ((← get).graph.node root).mark
    fail (some ⟨"expected a single document in the stream", some start⟩) .secondDocument token.mark
  return some root

/-- The graph of a document and its root. -/
def Graph.ofText (t : Text) : Except Fault (Option (Graph × NodeId)) := do
  let stream := tokenize t
  let (root, s) ← singleDocument.run ⟨stream.tokens, stream.fault, standardHandles, [], #[]⟩
  return root.map fun id => (s.graph, id)

end Yaml

end Invocation
