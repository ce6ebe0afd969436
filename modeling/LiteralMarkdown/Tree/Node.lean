import LiteralMarkdown.Json.Basic

/-!
# Nodes

A node of a document tree has a type. It may have a value and children, and whatever else its object
holds is kept as it is. Whether the value was given is kept apart from what it is: a value of null
is not the same as none.
-/

namespace LiteralMarkdown

/-- An optional part: left out, given as null, or filled. -/
inductive Slot (α : Type) where
  | absent
  | null
  | filled (a : α)
deriving DecidableEq, Repr

/-- What fills a slot. -/
def Slot.toOption {α : Type} : Slot α → Option α
  | .absent => none
  | .null => none
  | .filled a => some a

/-- A node of a document tree. -/
structure Node where
  type : String
  value : Option Json
  children : Slot (List Node)
  extras : List (String × Json)

namespace Node

/-! ## Objects -/

mutual

/-- The object of a node: its type, its value if one was given, its children if there are any to
speak of, and the rest in its order. -/
def toJson : Node → Json
  | ⟨type, value, children, extras⟩ =>
    .object (("type", .string type) :: (value.map fun v => ("value", v)).toList ++
      childrenToJson children ++ extras)

/-- The named value that holds the children of a node. -/
def childrenToJson : Slot (List Node) → List (String × Json)
  | .absent => []
  | .null => []
  | .filled nodes => [("children", .list (nodesToJson nodes))]

/-- The objects of some nodes. -/
def nodesToJson : List Node → List Json
  | [] => []
  | node :: nodes => node.toJson :: nodesToJson nodes

end

/-- The names that the object of a node gave, in alphabetical order. -/
def namesGiven (node : Node) : List String :=
  let children := match node.children with
    | .absent => []
    | _ => ["children"]
  let names := "type" :: (if node.value.isSome then ["value"] else []) ++ children ++
    node.extras.map (·.1)
  names.mergeSort fun a b => decide (a ≤ b)

/-! ## Sameness -/

mutual

/-- Whether two nodes say the same: a value that was not given says the same as null, and so do
children. -/
def sameAs : Node → Node → Bool
  | ⟨type, value, children, extras⟩, ⟨type', value', children', extras'⟩ =>
    type == type' && (value.getD .null).same (value'.getD .null) &&
      sameChildren children children' && Json.sameFields extras extras'

/-- Whether two slots hold children that say the same. -/
def sameChildren : Slot (List Node) → Slot (List Node) → Bool
  | .filled nodes, .filled nodes' => sameNodes nodes nodes'
  | .filled _, _ => false
  | _, .filled _ => false
  | _, _ => true

/-- Whether two lists of nodes say the same. -/
def sameNodes : List Node → List Node → Bool
  | [], [] => true
  | node :: nodes, node' :: nodes' => node.sameAs node' && sameNodes nodes nodes'
  | _, _ => false

end

end Node

end LiteralMarkdown
