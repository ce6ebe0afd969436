import LiteralMarkdown.Json.Shown
import LiteralMarkdown.Schema.Fault
import LiteralMarkdown.Tree.Node

/-!
# The schema of nodes

An object is a node if it has a text as its type and if its children, where there are any, are a
list of nodes. Values are not looked at. All faults of a tree are reported, those of a node before
those of its children, and no node may lie deeper than `Node.levels` allows.
-/

namespace LiteralMarkdown.Node

open Schema

/-- How many levels a tree may have: nodes below them are not looked into. -/
def levels : Nat := 255

/-- The type that an object gives. -/
def checkType (fields : List (String × Json)) : Checked String :=
  match Json.lookup? "type" fields with
  | none => Checked.under [.name "type"] (Checked.fail .missing (Json.object fields).toData)
  | some (.string s) => .ok s
  | some other => Checked.under [.name "type"] (Checked.fail .notString other.toData)

/-- The children that an object gives, each checked on its own. -/
def checkChildren (check : Json → Checked Node) (fields : List (String × Json)) :
    Checked (Slot (List Node)) :=
  match Json.lookup? "children" fields with
  | none => .ok .absent
  | some .null => .ok .null
  | some (.list items) =>
    (Checked.under [.name "children"] (Checked.each check 0 items)).map .filled
  | some other => Checked.under [.name "children"] (Checked.fail .notList other.toData)

/-- The names that have a meaning in every node. -/
def ownNames : List String := ["type", "value", "children"]

/-- The named values of an object that are no part of the node itself. -/
def extrasOf (fields : List (String × Json)) : List (String × Json) :=
  fields.filter fun field => !ownNames.contains field.1

/-- The node that a value stands for, with so many levels left. -/
def check : (levels : Nat) → Json → Checked Node
  | 0, tree => Checked.fail .tooDeep tree.toData
  | levels + 1, .object fields =>
    (Checked.both (checkType fields) (checkChildren (check levels) fields)).map
      fun (type, children) =>
        { type, value := Json.lookup? "value" fields, children, extras := extrasOf fields }
  | _ + 1, other => Checked.fail .notNode other.toData

/-- The node that a value stands for, or all that is wrong with the value. -/
def ofJson (tree : Json) : Checked Node := check levels tree

end LiteralMarkdown.Node
