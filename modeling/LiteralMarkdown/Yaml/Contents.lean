import LiteralMarkdown.Yaml.Document
import LiteralMarkdown.Yaml.Meaning
import LiteralMarkdown.Yaml.Merge

/-!
# Contents of YAML documents

What a document holds as plain data. Every node stands for one value, wherever in the document it is
a part, and the values of collections name their parts by the numbers of nodes. Collections are
filled one level after the other, each in its turn, which decides which of several faults shows;
mappings are merged just before they are filled.
-/

namespace LiteralMarkdown.Yaml

/-- What a node stands for. Of a collection only the numbers of its parts are known. -/
inductive Shape where
  | single (value : Data)
  | list (items : List Nat)
  /-- Pairs in their order. -/
  | pairs (pairs : List (Nat × Nat))
  | set (items : List Nat)
  | map (pairs : List (Nat × Nat))
deriving Inhabited

namespace Shape

/-- Whether it is a collection, which cannot be a key. -/
def isCollection : Shape → Bool
  | .single _ => false
  | .list _ | .pairs _ | .set _ | .map _ => true

/-- Whether two shapes are the same key. -/
def sameKey : Shape → Shape → Bool
  | .single a, .single b => a.sameKey b
  | _, _ => false

end Shape

/-- How far a document has been turned into data: its nodes, what they stand for as far as that is
known, and the collections that have not been filled, the latest first. -/
structure Construction where
  nodes : Nodes
  shapes : Array (Option Shape)
  unfilled : List Nat

/-- A step of turning a document into data that can end in a fault. -/
abbrev Constructs := StateT Construction (Except Fault)

namespace Construction

/-- What a node stands for, if that is known. -/
def shape? (c : Construction) (n : Nat) : Option Shape := c.shapes[n]?.join

/-- Makes known what a node stands for. -/
def setShape (n : Nat) (shape : Shape) : Constructs Unit :=
  modify fun c => { c with shapes := c.shapes.setIfInBounds n (some shape) }

/-- The collection without parts that a tag asks for, if it asks for a collection. -/
def emptyOf? (tag : String) : Option Shape :=
  match wordOf? tag with
  | some "seq" => some (.list [])
  | some "omap" | some "pairs" => some (.pairs [])
  | some "set" => some (.set [])
  | some "map" => some (.map [])
  | _ => none

/-- Finds out what a node stands for, unless it is known. A collection is left to be filled. -/
def construct (n : Nat) : Constructs Unit := do
  let c ← get
  if (c.shape? n).isNone then
    match emptyOf? (c.nodes.node n).tag with
    | some empty =>
      setShape n empty
      modify fun c => { c with unfilled := n :: c.unfilled }
    | none => setShape n (.single (← scalarData c.nodes n))

/-! ## Filling collections -/

/-- The pairs with those of one key made one: the key is the first of them, the value the last. -/
def putPair (c : Construction) (pairs : List (Nat × Nat)) (key value : Nat) : List (Nat × Nat) :=
  let isSame (other : Nat) : Bool :=
    match c.shape? other, c.shape? key with
    | some a, some b => a.sameKey b
    | _, _ => false
  match pairs with
  | [] => [(key, value)]
  | (other, old) :: rest =>
    if isSame other then (other, value) :: rest else (other, old) :: putPair c rest key value

/-- The pairs of a mapping, merged, with known keys and values. No key may be a collection. -/
def fillPairs (n : Nat) : Constructs (List (Nat × Nat)) := do
  let c ← get
  let (_, nodes) ← Nodes.merge n c.nodes
  set { c with nodes }
  (nodes.node n).pairs.foldlM (fun done (key, value) => do
    construct key
    if ((← get).shape? key).any Shape.isCollection then throw .mappingForm
    construct value
    return putPair (← get) done key value) []

/-- The single pair of each of some mappings, with known keys and values. -/
def fillSinglePairs (fault : Fault) : List Nat → Constructs (List (Nat × Nat))
  | [] => return []
  | n :: rest => do
    match (← get).nodes.node n with
    | .mapping _ [(key, value)] =>
      construct key
      construct value
      return (key, value) :: (← fillSinglePairs fault rest)
    | _ => throw fault

/-- The parts of a collection, as its tag asks for them. -/
def partsOf (n : Nat) : Constructs Shape := do
  let node := (← get).nodes.node n
  match wordOf? node.tag, node with
  | some "omap", .sequence _ items => return .pairs (← fillSinglePairs .orderedMapForm items)
  | some "omap", _ => throw .orderedMapForm
  | some "pairs", .sequence _ items => return .pairs (← fillSinglePairs .pairsForm items)
  | some "pairs", _ => throw .pairsForm
  | some "set", .mapping .. => return .set ((← fillPairs n).map (·.1))
  | some "map", .mapping .. => return .map (← fillPairs n)
  | some "set", node | some "map", node => throw (.wrongKind .mapping node.kind)
  | _, .sequence _ items =>
    items.forM construct
    return .list items
  | _, node => throw (.wrongKind .sequence node.kind)

/-- Fills collections level by level. Every collection is filled once, so the number of nodes is
enough fuel. -/
def fillAll : (fuel : Nat) → Constructs Unit
  | 0 => return
  | fuel + 1 => do
    let level := (← get).unfilled.reverse
    modify fun c => { c with unfilled := [] }
    level.forM fun n => do setShape n (← partsOf n)
    unless level.isEmpty do fillAll fuel

/-- What the nodes of a document stand for. -/
def ofDocument (document : Document) : Except Fault (Array (Option Shape)) := do
  let start : Construction :=
    { nodes := document.nodes
      shapes := Array.replicate document.nodes.size none
      unfilled := [] }
  let run : Constructs Unit := do
    construct document.root
    fillAll (document.nodes.size + 1)
  return (← run.run start).2.shapes

end Construction

/-! ## Contents -/

/-- What a document holds: what its nodes stand for, and the number of the one that holds all
others. -/
structure Contents where
  shapes : Array (Option Shape)
  root : Nat

namespace Contents

/-- What a node stands for. -/
def shape (contents : Contents) (n : Nat) : Shape := (contents.shapes[n]?.join).getD (.single .null)

/-- The data that a node stands for, inside the nodes with the given numbers. A collection that is
among these is told by its kind. No more nodes than there are can lie inside one another. -/
def dataFrom (contents : Contents) : (fuel : Nat) → (around : List Nat) → (n : Nat) → Data
  | 0, _, _ => .null
  | fuel + 1, around, n =>
    let part := contents.dataFrom fuel (n :: around)
    let isAround := around.contains n
    match contents.shape n with
    | .single value => value
    | .list items => if isAround then .listAround else .list (items.map part)
    | .pairs pairs =>
      if isAround then .listAround
      else .list (pairs.map fun (key, value) => .tuple [part key, part value])
    | .set items => .set (items.map part)
    | .map pairs =>
      if isAround then .mapAround
      else .map (pairs.map fun (key, value) => (part key, part value))

/-- The data that a node stands for. -/
def data (contents : Contents) (n : Nat) : Data :=
  contents.dataFrom (contents.shapes.size + 1) [] n

/-- Whether what a node stands for counts as absent: null, false, zero, and all that is empty. -/
def isVoid (contents : Contents) (n : Nat) : Bool :=
  match contents.shape n with
  | .single value => value.isVoid
  | .list items | .set items => items.isEmpty
  | .pairs pairs | .map pairs => pairs.isEmpty

/-- The keys of a mapping with the numbers of their values, if the node is one. -/
def entries? (contents : Contents) (n : Nat) : Option (List (Data × Nat)) :=
  match contents.shape n with
  | .map pairs => some (pairs.map fun (key, value) => (contents.data key, value))
  | .single _ | .list _ | .pairs _ | .set _ => none

end Contents

/-! ## Texts -/

/-- Whether the character may stand in a document. -/
def isAcceptable (c : Char) : Bool :=
  let n := c.toNat
  n == 0x9 || n == 0xA || n == 0xD || (0x20 ≤ n && n ≤ 0x7E) || n == 0x85 ||
    (0xA0 ≤ n && n ≤ 0xD7FF) || (0xE000 ≤ n && n ≤ 0xFFFD) || 0x10000 ≤ n

/-- What the document that a text holds stands for, or none if the text holds none. -/
def read? (text : List Char) : Except Fault (Option Contents) :=
  match text.find? fun c => !isAcceptable c with
  | some c => .error (.unacceptable c)
  | none => do
    match ← Document.ofText? text with
    | none => return none
    | some document =>
      return some { shapes := ← Construction.ofDocument document, root := document.root }

end LiteralMarkdown.Yaml
