import LiteralMarkdown.Text.Sign
import LiteralMarkdown.Yaml.Fault
import LiteralMarkdown.Yaml.Kind

/-!
# Nodes of YAML documents

A document is made of scalars, sequences and mappings, each with a tag. An alias makes one node a
part of several collections, even of itself, so a document is a graph: its nodes are numbered, and a
collection names its parts by their numbers.
-/

namespace LiteralMarkdown.Yaml

/-- A node of a document. -/
inductive Node where
  | scalar (tag : String) (text : List Text.Sign)
  | sequence (tag : String) (items : List Nat)
  | mapping (tag : String) (pairs : List (Nat × Nat))
deriving DecidableEq, Repr, Inhabited

namespace Node

/-- The tag of a node. -/
def tag : Node → String
  | .scalar tag _ | .sequence tag _ | .mapping tag _ => tag

/-- The node with another tag. -/
def withTag (tag : String) : Node → Node
  | .scalar _ text => .scalar tag text
  | .sequence _ items => .sequence tag items
  | .mapping _ pairs => .mapping tag pairs

/-- The kind of a node. -/
def kind : Node → NodeKind
  | .scalar .. => .scalar
  | .sequence .. => .sequence
  | .mapping .. => .mapping

/-- The pairs of a mapping; other nodes have none. -/
def pairs : Node → List (Nat × Nat)
  | .mapping _ pairs => pairs
  | .scalar .. | .sequence .. => []

end Node

/-- The nodes of a document by their numbers. -/
abbrev Nodes := Array Node

namespace Nodes

/-- The node with a number. -/
def node (nodes : Nodes) (n : Nat) : Node := nodes[n]?.getD (.scalar "" [])

/-- The nodes with one of them replaced. -/
def replace (nodes : Nodes) (n : Nat) (node : Node) : Nodes := nodes.setIfInBounds n node

/-- Whether the node with a number is of a kind of scalars. -/
def hasKind (nodes : Nodes) (kind : ScalarKind) (n : Nat) : Bool := (nodes.node n).tag == kind.tag

end Nodes

/-- A document: its nodes and the number of the one that holds all others. -/
structure Document where
  nodes : Nodes
  root : Nat
deriving DecidableEq, Repr

end LiteralMarkdown.Yaml
