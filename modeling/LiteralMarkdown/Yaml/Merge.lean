import LiteralMarkdown.Yaml.Node

/-!
# Merging mappings

Under the key `<<` a mapping takes over the pairs of another mapping, or of all mappings of a
sequence. `Nodes.merge` puts these pairs in place of the key: they come before the pairs of the
mapping itself, and so give way to them. The mappings that pairs are taken from are merged first,
and a mapping can be among those that it takes pairs from.
-/

namespace LiteralMarkdown.Yaml

/-- A step of merging that can end in a fault. -/
abbrev Merges := StateT Nodes (Except Fault)

namespace Nodes

/-- The pairs of a mapping without the first one that has a merge key, and the value of that one. -/
def splitMerge? (nodes : Nodes) : List (Nat × Nat) → Option (Nat × List (Nat × Nat))
  | [] => none
  | (key, value) :: pairs =>
    if nodes.hasKind .merge key then some (value, pairs)
    else (nodes.splitMerge? pairs).map fun (taken, rest) => (taken, (key, value) :: rest)

/-- Whether a pair has a merge key. -/
def isMergePair (nodes : Nodes) (pair : Nat × Nat) : Bool := nodes.hasKind .merge pair.1

/-- The number of pairs with a merge key in a document. -/
def mergeCount (nodes : Nodes) : Nat :=
  nodes.toList.foldl (fun n node => n + node.pairs.countP nodes.isMergePair) 0

/-- The nodes where keys of a mapping that are equals signs are texts. -/
def settleKeys (nodes : Nodes) (n : Nat) : Nodes :=
  (nodes.node n).pairs.foldl (fun nodes pair =>
    if nodes.hasKind .value pair.1 then
      nodes.replace pair.1 ((nodes.node pair.1).withTag ScalarKind.text.tag)
    else nodes) nodes

/-- The nodes where a mapping has the given pairs. -/
def setPairs (nodes : Nodes) (n : Nat) (pairs : List (Nat × Nat)) : Nodes :=
  nodes.replace n (.mapping (nodes.node n).tag pairs)

/-- Takes the first pair with a merge key away from a mapping and gives its value. -/
def takeMerge? (n : Nat) : Merges (Option Nat) := do
  let nodes ← get
  match nodes.splitMerge? (nodes.node n).pairs with
  | none => return none
  | some (value, pairs) =>
    set (nodes.setPairs n pairs)
    return some value

/-- The pairs that merging gives a mapping from another node, given how that node is merged. -/
def pairsOf (merge : Nat → Merges Unit) (n : Nat) : Merges (List (Nat × Nat)) := do
  match (← get).node n with
  | .mapping .. =>
    merge n
    return ((← get).node n).pairs
  | .scalar .. | .sequence .. => throw .mappingForm

/-- The pairs that merging takes over from the value of a merge key, given how other nodes are
merged. Those of earlier mappings of a sequence come later, and so prevail. -/
def pairsTaken (merge : Nat → Merges Unit) (n : Nat) : Merges (List (Nat × Nat)) := do
  match (← get).node n with
  | .sequence _ items => return (← items.mapM (pairsOf merge)).reverse.flatten
  | .scalar .. | .mapping .. => pairsOf merge n

/-- The pairs that merging takes over for up to `count` pairs with merge keys of a mapping, given
how other nodes are merged. -/
def takeAll (merge : Nat → Merges Unit) (n : Nat) : (count : Nat) → Merges (List (Nat × Nat))
  | 0 => return []
  | count + 1 => do
    match ← takeMerge? n with
    | none => return []
    | some value =>
      let taken ← pairsTaken merge value
      return taken ++ (← takeAll merge n count)

/-- Merges a mapping. For each mapping that is merged on the way to another one a pair with a merge
key has been taken away, so their number is enough fuel. -/
def mergeWithin : (fuel : Nat) → (n : Nat) → Merges Unit
  | 0, _ => return
  | fuel + 1, n => do
    modify fun nodes => nodes.settleKeys n
    let count := ((← get).node n).pairs.countP (← get).isMergePair
    let taken ← takeAll (mergeWithin fuel) n count
    unless taken.isEmpty do
      modify fun nodes => nodes.setPairs n (taken ++ (nodes.node n).pairs)

/-- Merges a mapping of a document. -/
def merge (n : Nat) : Merges Unit := do mergeWithin ((← get).mergeCount + 1) n

end Nodes

end LiteralMarkdown.Yaml
