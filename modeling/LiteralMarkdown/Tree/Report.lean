import LiteralMarkdown.Tree.Escape

/-!
# Reports

What a run over a tree reports while it goes on, in words. A run that fails has reported whatever
came before its failure: `reportOf` gives that, and all records of a run that does not fail.
-/

namespace LiteralMarkdown

/-- A text-bearing node that a run comes to: whether it is the first child of its parent, its type,
and its value, which is null if it has none. -/
structure Visit where
  first : Bool
  type : String
  value : Json

namespace Node

mutual

/-- The text-bearing nodes that a run comes to, children before their parent. It does not come to
nodes of a passthrough type, nor to what lies below them. -/
def visits (settings : Settings) (first : Bool) : Node → List Visit
  | ⟨type, value, children, _⟩ =>
    if type ∈ settings.passthroughTypes then []
    else childVisits settings children ++
      if type ∈ settings.textTypes then [⟨first, type, value.getD .null⟩] else []

/-- The text-bearing nodes among the children of a node and below them. -/
def childVisits (settings : Settings) : Slot (List Node) → List Visit
  | .absent => []
  | .null => []
  | .filled nodes => visitsOf settings true nodes

/-- The text-bearing nodes among nodes that follow one another, and below them. -/
def visitsOf (settings : Settings) (first : Bool) : List Node → List Visit
  | [] => []
  | node :: nodes => node.visits settings first ++ visitsOf settings false nodes

end

end Node

/-- The values that change at some nodes, up to the first one that is refused. -/
def changesAt (settings : Settings) : List Visit → List Change
  | [] => []
  | visit :: visits =>
    match escapeValue settings visit.first visit.type visit.value with
    | .ok (_, changes) => changes ++ changesAt settings visits
    | .error _ => []

/-- What a run over a tree reports. -/
def reportOf (settings : Settings) (tree : Json) : List Record :=
  match Node.ofTree tree with
  | .ok root => .entered root.type :: (changesAt settings (root.visits settings false)).map .changed
  | .error _ => []

/-- The wording of a record. -/
def Record.message : Record → String
  | .entered type => "Escaping tree rooted at " ++ type ++ " node"
  | .changed change =>
    "Escaped " ++ change.type ++ " node: " ++ Text.quoted change.before ++ " -> " ++
      Text.quoted change.after

end LiteralMarkdown
