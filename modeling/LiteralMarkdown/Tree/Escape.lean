import LiteralMarkdown.Escape
import LiteralMarkdown.Json.Shown
import LiteralMarkdown.Settings.Basic
import LiteralMarkdown.Tree.Schema

/-!
# Escaping a tree

The values of text-bearing nodes are escaped so that they stay literal when the tree is written as
Markdown. Children are treated before their parent, and the first child of a node is escaped for the
beginning of a block as well. Nodes of a passthrough type are returned as they are, with all that
lies below them. Every value that changes is recorded.
-/

namespace LiteralMarkdown

/-- Why a tree is refused. -/
inductive TreeError where
  /-- The tree as a whole is not an object. -/
  | notObject (tree : Json)
  /-- The tree breaks the schema of nodes; the type is the one that its root gives. -/
  | malformed (type : Json) (faults : List Schema.Fault)
  /-- The value of a text-bearing node is not a text. -/
  | valueNotText (type : String) (value : Json)
  /-- A value is longer than allowed. -/
  | valueTooLong (length limit : Nat)

namespace TreeError

/-- How a message calls a node of a type. -/
def nodeLabel (type : Json) : String :=
  if type.toData.isVoid then "Invalid node" else "Invalid '" ++ type.shown ++ "' node"

/-- The wording of an error. The faults of a malformed tree are told on lines of their own. -/
def message (e : TreeError) (hints : Schema.Hints := fun _ => []) : String :=
  match e with
  | .notObject tree => nodeLabel .null ++ ": expected a mapping, got " ++ tree.toData.kindName
  | .malformed type faults => nodeLabel type ++ ": " ++ Schema.report hints "Node" faults
  | .valueNotText type value =>
    nodeLabel (.string type) ++ ": value must be a string, got " ++ value.toData.kindName
  | .valueTooLong length limit =>
    "Text value of " ++ toString length ++ " characters exceeds the limit of " ++ toString limit

end TreeError

/-- A value that was changed: the type of its node, the value before and the value after. -/
structure Change where
  type : String
  before : String
  after : String
deriving DecidableEq, Repr

/-- What a run over a tree reports. -/
inductive Record where
  /-- The tree has a root of this type. -/
  | entered (type : String)
  /-- A value was changed. -/
  | changed (change : Change)
deriving DecidableEq, Repr

/-! ## Values -/

/-- A text escaped for its place: the first child of a node opens a block. -/
def escapeText (first : Bool) (s : String) : String :=
  String.ofList (if first then escapeAll s.toList else escapeCommon s.toList)

/-- Why the settings refuse a length, if they do. -/
def Settings.refusesLength? (settings : Settings) (length : Nat) : Option TreeError :=
  match settings.maxValueLength with
  | none => none
  | some limit => if limit < length then some (.valueTooLong length limit) else none

/-- The length that a text may not have under the settings, if it has it. -/
def Settings.exceeds? (settings : Settings) (s : String) : Option TreeError :=
  settings.refusesLength? s.length

/-- The escaped value of a text-bearing node, and the record of it if it changed. -/
def escapeValue (settings : Settings) (first : Bool) (type : String) (value : Json) :
    Except TreeError (String × List Change) :=
  match value with
  | .string s =>
    match settings.exceeds? s with
    | some e => .error e
    | none =>
      let escaped := escapeText first s
      .ok (escaped, if escaped = s then [] else [⟨type, s, escaped⟩])
  | value => .error (.valueNotText type value)

/-! ## Nodes -/

namespace Node

mutual

/-- The node with the values of text-bearing nodes escaped, and the records of those that changed,
children before their parent. -/
def escape (settings : Settings) (first : Bool) : Node → Except TreeError (Node × List Change)
  | ⟨type, value, children, extras⟩ =>
    if type ∈ settings.passthroughTypes then .ok (⟨type, value, children, extras⟩, [])
    else do
      let (children, below) ← escapeChildren settings children
      if type ∈ settings.textTypes then
        let (escaped, own) ← escapeValue settings first type (value.getD .null)
        return (⟨type, some (.string escaped), children, extras⟩, below ++ own)
      else return (⟨type, value, children, extras⟩, below)

/-- The children of a node, escaped; only the first of them comes first. -/
def escapeChildren (settings : Settings) :
    Slot (List Node) → Except TreeError (Slot (List Node) × List Change)
  | .absent => .ok (.absent, [])
  | .null => .ok (.null, [])
  | .filled nodes => do
    let (nodes, records) ← escapeNodes settings true nodes
    return (.filled nodes, records)

/-- Nodes that follow one another, escaped. -/
def escapeNodes (settings : Settings) (first : Bool) :
    List Node → Except TreeError (List Node × List Change)
  | [] => .ok ([], [])
  | node :: nodes => do
    let (node, records) ← node.escape settings first
    let (nodes, more) ← escapeNodes settings false nodes
    return (node :: nodes, records ++ more)

end

/-- The root of the tree that a value stands for. -/
def ofTree (tree : Json) : Except TreeError Node :=
  match tree with
  | .object fields =>
    (ofJson tree).mapError (.malformed ((Json.lookup? "type" fields).getD .null))
  | tree => .error (.notObject tree)

end Node

/-! ## Trees -/

/-- The tree with the values of text-bearing nodes escaped, and the report of the run. -/
def escapeTree (settings : Settings) (tree : Json) : Except TreeError (Json × List Record) := do
  let root ← Node.ofTree tree
  let (escaped, changes) ← root.escape settings false
  return (escaped.toJson, .entered root.type :: changes.map .changed)

end LiteralMarkdown
