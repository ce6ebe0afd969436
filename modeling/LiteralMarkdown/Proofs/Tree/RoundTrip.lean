import LiteralMarkdown.Proofs.Tree.Tidy

/-!
# A tree and what is written of it

A value that stands for a tree of nodes can be written as that tree: what is written says the same
at every place, in the order in which nodes are written. It is its own tree again, and a run over it
ends as the run over the value does. The main statement is `Node.toJson_of_ofJson`.
-/

namespace LiteralMarkdown

open Schema Checked

/-- The named values of an object in their order. Other values have none. -/
def Json.fields : Json → List (String × Json)
  | .object fields => fields
  | _ => []

/-- The second value says of a node what the first one does: only children that are null are lost.
The type comes first, then the value, the children, and the extras in the order they had. -/
structure Restated (before after : Json) : Prop where
  type : after.field? "type" = before.field? "type"
  value : after.field? "value" = before.field? "value"
  extras : Node.extrasOf after.fields = Node.extrasOf before.fields
  childless : before.field? "children" = none ∨ before.field? "children" = some .null →
    after.field? "children" = none
  children : ∀ items, before.field? "children" = some (.list items) →
    ∃ items', after.field? "children" = some (.list items') ∧ items'.length = items.length
  names : after.fields.map Prod.fst =
    "type" :: ((before.field? "value").map fun _ => "value").toList ++
      ((after.field? "children").map fun _ => "children").toList ++
      (Node.extrasOf before.fields).map Prod.fst

namespace Node

theorem nodesToJson_eq_map (nodes : List Node) : nodesToJson nodes = nodes.map toJson := by
  induction nodes with
  | nil => rfl
  | cons node nodes ih => rw [nodesToJson, List.map_cons, ih]

theorem ExtrasApart.childItems_toJson {node : Node} (h : node.ExtrasApart) :
    node.toJson.childItems = node.childList.map toJson := by
  rw [Json.childItems, h.field?_children, childList]
  cases node.children with
  | absent | null => rfl
  | filled nodes => exact nodesToJson_eq_map nodes

theorem map_fst_ownFields (node : Node) :
    node.ownFields.map Prod.fst = "type" :: (node.value.map fun _ => "value").toList ++
      (node.children.toOption.map fun _ => "children").toList := by
  unfold ownFields
  cases node.value <;> cases node.children <;> rfl

/-- What is written of a node restates the value that it was read of. -/
theorem restated_of_check {levels : Nat} {tree : Json} {node : Node}
    (h : check levels tree = .ok node) : Restated tree node.toJson := by
  rcases check_eq_ok_iff.1 h with ⟨lower, fields, -, rfl, htype, hchildren, hvalue, hextras⟩
  have hapart := extrasApart_of_extras_eq hextras
  have hfields : node.toJson.fields = node.ownFields ++ node.extras := by
    rw [toJson_eq, Json.fields]
  rw [checkType_eq_ok_iff] at htype
  rw [checkChildren_eq_ok_iff] at hchildren
  constructor
  case type => rw [hapart.field?_type, Json.field?, htype]
  case value => rw [hapart.field?_value, Json.field?, hvalue]
  case extras => rw [hfields, hapart.extrasOf_append, Json.fields, hextras]
  case childless =>
    intro hnone
    rw [Json.field?] at hnone
    rw [hapart.field?_children]
    cases hslot : node.children with
    | absent | null => rfl
    | filled nodes =>
      -- Children are filled only where a list was given.
      rw [hslot] at hchildren
      rcases hchildren with ⟨items, hgiven, -⟩
      simp [hgiven] at hnone
  case children =>
    intro items hitems
    rw [Json.field?] at hitems
    rw [hapart.field?_children]
    cases hslot : node.children with
    | absent | null =>
      rw [hslot] at hchildren
      simp [hchildren] at hitems
    | filled nodes =>
      rw [hslot] at hchildren
      rcases hchildren with ⟨items', hgiven, hnodes⟩
      rw [hgiven] at hitems
      cases hitems
      refine ⟨nodesToJson nodes, rfl, ?_⟩
      rw [nodesToJson_eq_map, List.length_map, length_of_each hnodes]
  case names =>
    rw [hfields, List.map_append, map_fst_ownFields, hapart.field?_children, Json.field?,
      Json.fields, ← hvalue, ← hextras, Option.map_map]
    rfl

/-- What is written of a tree has the places of the value that it was read of, and restates at each
of them what stands there. -/
theorem restated_at?_of_check {levels : Nat} {tree : Json} {node : Node}
    (h : check levels tree = .ok node) (path : List Nat) :
    Option.Rel Restated (tree.at? path) (node.toJson.at? path) := by
  induction path generalizing levels tree node with
  | nil => exact .some (restated_of_check h)
  | cons i path ih =>
    rcases check_eq_ok_iff.1 h with ⟨_, _, -, -, -, -, -, hextras⟩
    rcases exists_of_check_eq_ok h with ⟨-, -, lower, hrel⟩
    have hi := hrel i
    rw [Json.at?_cons, Json.at?_cons, (extrasApart_of_extras_eq hextras).childItems_toJson,
      List.getElem?_map]
    generalize tree.childItems[i]? = item at hi
    generalize node.childList[i]? = child at hi
    cases hi with
    | none => exact .none
    | some hchild => exact ih hchild

theorem escapeTree_toJson {tree : Json} {node : Node} (h : ofJson tree = .ok node)
    (settings : Settings) : escapeTree settings node.toJson = escapeTree settings tree := by
  rw [(fits_of_check h).escapeTree_toJson, escapeTree_of_ofTree (ofTree_eq_ok_iff.2 h)]

/-- What is written of a value that stands for a tree restates it at every place, is written the
same when it is read again, and a run over it ends as the run over the value, with the same result
or the same error. -/
theorem toJson_of_ofJson {tree : Json} {node : Node} (h : ofJson tree = .ok node) :
    (∀ path, Option.Rel Restated (tree.at? path) (node.toJson.at? path)) ∧
      (∃ again, ofJson node.toJson = .ok again ∧ again.toJson = node.toJson) ∧
      ∀ settings, escapeTree settings node.toJson = escapeTree settings tree := by
  refine ⟨restated_at?_of_check h, ?_, escapeTree_toJson h⟩
  exact ⟨node.tidy, (fits_of_check h).check_toJson, toJson_tidy node⟩

/-- A tree with its names in another order, a value of null, children of null, an empty list of
children, and an extra that looks like a node. -/
theorem toJson_of_ofJson_unordered :
    let inner : Json := .object [("children", .null), ("type", .int 1)]
    let tree : Json := .object [("position", inner), ("children", .list [
      .object [("children", .null), ("value", .string "*a*"), ("type", .string "text")],
      .object [("children", .list []), ("type", .string "text"), ("value", .null)]]),
      ("type", .string "root")]
    let node : Node := ⟨"root", none, .filled [⟨"text", some (.string "*a*"), .null, []⟩,
      ⟨"text", some .null, .filled [], []⟩], [("position", inner)]⟩
    let written : Json := .object [("type", .string "root"), ("children", .list [
      .object [("type", .string "text"), ("value", .string "*a*")],
      .object [("type", .string "text"), ("value", .null), ("children", .list [])]]),
      ("position", inner)]
    ofJson tree = .ok node ∧ node.toJson = written ∧
      (∀ path, Option.Rel Restated (tree.at? path) (written.at? path)) ∧
      escapeTree .default written = escapeTree .default tree := by
  intro inner tree node written
  have h : ofJson tree = .ok node := by rfl
  have hwritten : node.toJson = written := by rfl
  have hround := toJson_of_ofJson h
  rw [hwritten] at hround
  exact ⟨h, hwritten, hround.1, hround.2.2 .default⟩

end Node

end LiteralMarkdown
