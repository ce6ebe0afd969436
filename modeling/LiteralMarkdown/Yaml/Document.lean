import LiteralMarkdown.Yaml.Layout
import LiteralMarkdown.Yaml.Node

/-!
# YAML documents

`Document.ofText?` reads the nodes of a text from its tokens: an alias stands for the node that it
names, and nodes without a tag get the one that goes by their form. A text holds at most one
document.
-/

namespace LiteralMarkdown.Yaml

namespace Document

/-- How many collections may lie inside one another. -/
def depthLimit : Nat := 480

/-- Where a reader of tokens stands: the tokens ahead and the fault behind them, the nodes met so
far and those that names of anchors stand for, the stems that handles of tags stand for, and how
many collections it is in. -/
structure Reader where
  tokens : List Token
  fault : Option Fault
  nodes : Nodes
  anchors : List (String × Nat)
  handles : List (String × String)
  depth : Nat

/-- A step of reading that can end in a fault. -/
abbrev Reads := StateT Reader (Except Fault)

/-- The next token. The end of the text goes on for ever. -/
def peek : Reads Token := do
  let r ← get
  match r.tokens, r.fault with
  | t :: _, _ => return t
  | [], some fault => throw fault
  | [], none => return .streamEnd

/-- Goes past the next token. -/
def drop : Reads Unit := modify fun r => { r with tokens := r.tokens.drop 1 }

/-- Whether the next token is one of some; goes past it if it is. -/
def accept (t : Token) : Reads Bool := do
  if (← peek) = t then
    drop
    return true
  return false

/-! ## Tags and anchors -/

/-- The handles that need no directive. -/
def plainHandles : List (String × String) := [("!", "!"), ("!!", tagStem)]

/-- An anchor and a tag before a node, in any order. -/
def readProperties : Reads (Option String × Option (Option String × String)) := do
  match ← peek with
  | .anchor name =>
    drop
    match ← peek with
    | .tag handle suffix =>
      drop
      return (some name, some (handle, suffix))
    | _ => return (some name, none)
  | .tag handle suffix =>
    drop
    match ← peek with
    | .anchor name =>
      drop
      return (some name, some (handle, suffix))
    | _ => return (none, some (handle, suffix))
  | _ => return (none, none)

/-- The tag with its handle replaced by what it stands for. -/
def fullTag : Option (Option String × String) → Reads (Option String)
  | none => return none
  | some (none, suffix) => return some suffix
  | some (some handle, suffix) => do
    match (← get).handles.lookup handle with
    | none => throw .tagHandle
    | some stem => return some (stem ++ suffix)

/-- Whether a tag leaves it to the form of the node to tell what it is. -/
def isUnspecific (tag : Option String) : Bool := tag.all (· == "!")

/-- The tag of a scalar. Its form tells what it is if it has no tag and is plain, or if its tag says
so. -/
def scalarTag (tag : Option String) (text : List Text.Sign) (plain : Bool) : String :=
  let kind := ((Text.charsOf? text).map ScalarKind.ofForm).getD .text
  match tag with
  | none => (if plain then kind else .text).tag
  | some "!" => kind.tag
  | some tag => tag

/-- The tag of a collection. -/
def collectionTag (tag : Option String) (ofForm : String) : String :=
  if isUnspecific tag then tagStem ++ ofForm else tag.getD ""

/-- One more node, which the name of an anchor may stand for from here on. No earlier anchor may
have the name. -/
def addNode (anchor : Option String) (node : Node) : Reads Nat := do
  if let some name := anchor then
    if ((← get).anchors.lookup name).isSome then throw (.duplicateAnchor name)
  let n := (← get).nodes.size
  modify fun r => { r with
    nodes := r.nodes.push node
    anchors := (anchor.map fun name => (name, n)).toList ++ r.anchors }
  return n

/-- The node that stands where one may be left out. -/
def nothing : Reads Nat := addNode none (.scalar (scalarTag none [] true) [])

/-- The node that an alias stands for. -/
def ofAlias (name : String) : Reads Nat := do
  match (← get).anchors.lookup name with
  | none => throw (.undefinedAlias name)
  | some n => return n

/-! ## Nodes and collections -/

/-- One step deeper into collections. -/
def enter : Reads Unit := do
  let r ← get
  if depthLimit ≤ r.depth then throw (.unusable .depth)
  set { r with depth := r.depth + 1 }

/-- A collection with an anchor, given how it is read. It has its number before its parts do, so
that it can be one of them. -/
def collection (anchor : Option String) (empty : Node) (read : Reads Node) : Reads Nat := do
  let n ← addNode anchor empty
  enter
  let node ← read
  modify fun r => { r with nodes := r.nodes.replace n node, depth := r.depth - 1 }
  return n

mutual

/-- The node ahead. In block context it may be a block collection, and where it is the value of a
block mapping also a sequence at the column of the mapping. Every part of a document has a token of
its own, or follows one, so a few steps for every token are enough. -/
def read : (fuel : Nat) → (block unindented : Bool) → Reads Nat
  | 0, _, _ => throw .blockNode
  | fuel + 1, block, unindented => do
    if let .alias name ← peek then
      drop
      return ← ofAlias name
    let (anchor, tag) ← readProperties
    let tag ← fullTag tag
    let sequence (read : Reads (List Nat)) : Reads Nat :=
      let tag := collectionTag tag "seq"
      collection anchor (.sequence tag []) do return .sequence tag (← read)
    let mapping (read : Reads (List (Nat × Nat))) : Reads Nat :=
      let tag := collectionTag tag "map"
      collection anchor (.mapping tag []) do return .mapping tag (← read)
    let t ← peek
    if unindented ∧ t = .blockEntry then return ← sequence (readUnindented fuel)
    match t, block with
    | .scalar text form, _ =>
      drop
      addNode anchor (.scalar (scalarTag tag text (form == .plain)) text)
    | .flowSequenceStart, _ =>
      drop
      sequence (readFlowItems fuel true)
    | .flowMappingStart, _ =>
      drop
      mapping (readFlowPairs fuel true)
    | .blockSequenceStart, true =>
      drop
      sequence (readBlockItems fuel)
    | .blockMappingStart, true =>
      drop
      mapping (readBlockPairs fuel)
    | _, _ =>
      if anchor.isNone ∧ tag.isNone then throw (if block then .blockNode else .flowNode)
      addNode anchor (.scalar (scalarTag tag [] (isUnspecific tag)) [])

/-- The node ahead, or nothing if one of some tokens is. -/
def readUnless : (fuel : Nat) → (stops : List Token) → (block unindented : Bool) → Reads Nat
  | 0, _, _, _ => throw .blockNode
  | fuel + 1, stops, block, unindented => do
    if stops.contains (← peek) then return ← nothing
    read fuel block unindented

/-- The value of a pair after its colon, or nothing if there is no colon. -/
def readValue : (fuel : Nat) → (stops : List Token) → (block : Bool) → Reads Nat
  | 0, _, _ => throw .blockNode
  | fuel + 1, stops, block => do
    if ← accept .value then readUnless fuel stops block block else nothing

/-- The items of a block sequence. -/
def readBlockItems : (fuel : Nat) → Reads (List Nat)
  | 0 => throw .blockSequence
  | fuel + 1 => do
    if ← accept .blockEntry then
      let item ← readUnless fuel [.blockEntry, .blockEnd] true false
      return item :: (← readBlockItems fuel)
    if ← accept .blockEnd then return []
    throw .blockSequence

/-- The items of a sequence at the column of the mapping around it. -/
def readUnindented : (fuel : Nat) → Reads (List Nat)
  | 0 => throw .blockSequence
  | fuel + 1 => do
    if ← accept .blockEntry then
      let item ← readUnless fuel [.blockEntry, .key, .value, .blockEnd] true false
      return item :: (← readUnindented fuel)
    return []

/-- The pairs of a block mapping. -/
def readBlockPairs : (fuel : Nat) → Reads (List (Nat × Nat))
  | 0 => throw .blockMapping
  | fuel + 1 => do
    if ← accept .key then
      let stops := [.key, .value, .blockEnd]
      let key ← readUnless fuel stops true true
      let value ← readValue fuel stops true
      return (key, value) :: (← readBlockPairs fuel)
    if ← accept .blockEnd then return []
    throw .blockMapping

/-- The items of a flow sequence. A pair by itself is a mapping of one pair. -/
def readFlowItems : (fuel : Nat) → (first : Bool) → Reads (List Nat)
  | 0, _ => throw .flowSequence
  | fuel + 1, first => do
    if ← accept .flowSequenceEnd then return []
    if !first then
      if !(← accept .flowEntry) then throw .flowSequence
      if ← accept .flowSequenceEnd then return []
    if ← accept .key then
      let tag := collectionTag none "map"
      let item ← collection none (.mapping tag []) do
        let key ← readUnless fuel [.value, .flowEntry, .flowSequenceEnd] false false
        let value ← readValue fuel [.flowEntry, .flowSequenceEnd] false
        return .mapping tag [(key, value)]
      return item :: (← readFlowItems fuel false)
    let item ← read fuel false false
    return item :: (← readFlowItems fuel false)

/-- The pairs of a flow mapping. A node by itself is a key without a value. -/
def readFlowPairs : (fuel : Nat) → (first : Bool) → Reads (List (Nat × Nat))
  | 0, _ => throw .flowMapping
  | fuel + 1, first => do
    if ← accept .flowMappingEnd then return []
    if !first then
      if !(← accept .flowEntry) then throw .flowMapping
      if ← accept .flowMappingEnd then return []
    if ← accept .key then
      let key ← readUnless fuel [.value, .flowEntry, .flowMappingEnd] false false
      let value ← readValue fuel [.flowEntry, .flowMappingEnd] false
      return (key, value) :: (← readFlowPairs fuel false)
    let key ← read fuel false false
    let value ← nothing
    return (key, value) :: (← readFlowPairs fuel false)

end

/-! ## Documents -/

/-- The directives before a document: at most one version, and what handles of tags stand for. -/
def readDirectives : (fuel : Nat) → (version : Bool) → (handles : List (String × String)) →
    Reads (List (String × String))
  | 0, _, handles => return handles
  | fuel + 1, version, handles => do
    match ← peek with
    | .directive (.version major _) =>
      drop
      if version then throw .duplicateVersion
      if major ≠ 1 then throw .incompatibleVersion
      readDirectives fuel true handles
    | .directive (.handle handle stem) =>
      drop
      if (handles.lookup handle).isSome then throw (.duplicateHandle handle)
      readDirectives fuel version ((handle, stem) :: handles)
    | .directive .other =>
      drop
      readDirectives fuel version handles
    | _ => return handles

/-- Goes past marks that end a document. -/
def skipEnds : (fuel : Nat) → Reads Unit
  | 0 => return
  | fuel + 1 => do if ← accept .documentEnd then skipEnds fuel

/-- The root of a document that begins with a mark, after any directives, or none at the end of the
text. A document may be empty. -/
def readMarked (fuel : Nat) : Reads (Option Nat) := do
  skipEnds fuel
  if (← peek) = .streamEnd then return none
  let handles ← readDirectives fuel false []
  modify fun r => { r with handles := handles ++ plainHandles }
  let t ← peek
  if t ≠ .documentStart then throw (.documentStart t.name)
  drop
  match ← peek with
  | .directive _ | .documentStart | .documentEnd | .streamEnd => some <$> nothing
  | _ => some <$> read fuel true false

/-- Whether a document begins without a mark. -/
def beginsBare : Token → Bool
  | .directive _ | .documentStart | .streamEnd => false
  | _ => true

/-- The root of the only document, or none if there is none. -/
def readOnly (fuel : Nat) : Reads (Option Nat) := do
  let root ← if beginsBare (← peek) then some <$> read fuel true false else readMarked fuel
  if root.isNone then return none
  let _ ← accept .documentEnd
  skipEnds fuel
  if (← peek) = .streamEnd then return root
  let _ ← readDirectives fuel false []
  let t ← peek
  if t ≠ .documentStart then throw (.documentStart t.name)
  throw .manyDocuments

/-- The document that a text holds, or none if the text holds none. -/
def ofText? (text : List Char) : Except Fault (Option Document) := do
  let (tokens, fault) := tokenize text
  let start : Reader :=
    { tokens, fault, nodes := #[], anchors := [], handles := plainHandles, depth := 0 }
  let (root, r) ← (readOnly (4 * tokens.length + 8)).run start
  return root.map fun root => { nodes := r.nodes, root }

end Document

end LiteralMarkdown.Yaml
