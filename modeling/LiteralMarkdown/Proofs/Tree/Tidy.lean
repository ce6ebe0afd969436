import LiteralMarkdown.Proofs.Tree.Rewriting
import LiteralMarkdown.Proofs.Tree.Validity

/-!
# Nodes that are written and read again

The object of a node holds all that the node does but for one thing: children that are null are not
written. What is read of the object is the node without them, its tidy form, and a run over a tree
does not tell a node from its tidy form.

* `Fits.check_toJson`: a node that fits the levels can be read again, and is tidy then;
* `escape_tidy`: escaping a tidy node gives the tidy form of what escaping the node gives;
* `fits_of_check`, `Fits.of_escape`: nodes fit that are read of a value, and so do escaped ones.
-/

namespace LiteralMarkdown

open Schema Checked

namespace Node

/-! ## Tidy nodes -/

mutual

/-- The node without children that are null, here and everywhere below. -/
def tidy : Node → Node
  | ⟨type, value, children, extras⟩ => ⟨type, value, tidyChildren children, extras⟩

/-- Children that are null are left out. -/
def tidyChildren : Slot (List Node) → Slot (List Node)
  | .absent => .absent
  | .null => .absent
  | .filled nodes => .filled (tidyNodes nodes)

/-- Nodes that follow one another, each of them tidy. -/
def tidyNodes : List Node → List Node
  | [] => []
  | node :: nodes => node.tidy :: tidyNodes nodes

end

@[simp] theorem tidy_type (node : Node) : node.tidy.type = node.type := by
  rcases node with ⟨type, value, children, extras⟩
  rfl

@[simp] theorem tidy_value (node : Node) : node.tidy.value = node.value := by
  rcases node with ⟨type, value, children, extras⟩
  rfl

@[simp] theorem tidy_children (node : Node) :
    node.tidy.children = tidyChildren node.children := by
  rcases node with ⟨type, value, children, extras⟩
  rfl

@[simp] theorem tidy_extras (node : Node) : node.tidy.extras = node.extras := by
  rcases node with ⟨type, value, children, extras⟩
  rfl

mutual

theorem toJson_tidy : (node : Node) → node.tidy.toJson = node.toJson
  | ⟨type, value, children, extras⟩ => by
    rw [tidy, toJson, toJson, childrenToJson_tidyChildren children]

theorem childrenToJson_tidyChildren : (children : Slot (List Node)) →
    childrenToJson (tidyChildren children) = childrenToJson children
  | .absent => by rw [tidyChildren]
  | .null => by rw [tidyChildren, childrenToJson, childrenToJson]
  | .filled nodes => by
    rw [tidyChildren, childrenToJson, childrenToJson, nodesToJson_tidyNodes nodes]

theorem nodesToJson_tidyNodes : (nodes : List Node) →
    nodesToJson (tidyNodes nodes) = nodesToJson nodes
  | [] => by rw [tidyNodes]
  | node :: nodes => by
    rw [tidyNodes, nodesToJson, nodesToJson, toJson_tidy node, nodesToJson_tidyNodes nodes]

end

mutual

theorem escape_tidy (settings : Settings) (first : Bool) : (node : Node) →
    node.tidy.escape settings first =
      (node.escape settings first).map fun done => (done.1.tidy, done.2)
  | ⟨type, value, children, extras⟩ => by
    rw [tidy, escape_eq, escape_eq]
    by_cases hpass : type ∈ settings.passthroughTypes
    · rw [if_pos hpass, if_pos hpass]
      rfl
    · rw [if_neg hpass, if_neg hpass, escapeChildren_tidyChildren settings children]
      cases escapeChildren settings children with
      | error e => rfl
      | ok done =>
        by_cases htext : type ∈ settings.textTypes
        · cases escapeValue settings first type (value.getD .null) with
          | error e => simp only [Except.map, if_pos htext]
          | ok own => simp only [Except.map, if_pos htext, tidy]
        · simp only [Except.map, if_neg htext, tidy]

theorem escapeChildren_tidyChildren (settings : Settings) : (children : Slot (List Node)) →
    escapeChildren settings (tidyChildren children) =
      (escapeChildren settings children).map fun done => (tidyChildren done.1, done.2)
  | .absent => rfl
  | .null => rfl
  | .filled nodes => by
    rw [tidyChildren, escapeChildren, escapeChildren, escapeNodes_tidyNodes settings true nodes]
    cases escapeNodes settings true nodes with
    | error e => rfl
    | ok done => rfl

theorem escapeNodes_tidyNodes (settings : Settings) (first : Bool) : (nodes : List Node) →
    escapeNodes settings first (tidyNodes nodes) =
      (escapeNodes settings first nodes).map fun done => (tidyNodes done.1, done.2)
  | [] => rfl
  | node :: nodes => by
    rw [tidyNodes, escapeNodes, escapeNodes, escape_tidy settings first node,
      escapeNodes_tidyNodes settings false nodes]
    cases node.escape settings first with
    | error e => rfl
    | ok done =>
      cases escapeNodes settings false nodes with
      | error e => rfl
      | ok rest => rfl

end

/-! ## The object of a node -/

/-- None of the names among the extras has a meaning of its own. -/
def ExtrasApart (node : Node) : Prop := ∀ extra ∈ node.extras, extra.1 ∉ ownNames

/-- The named values of the object of a node that are no extras. -/
def ownFields (node : Node) : List (String × Json) :=
  ("type", .string node.type) :: (node.value.map fun v => ("value", v)).toList ++
    childrenToJson node.children

theorem toJson_eq (node : Node) : node.toJson = .object (node.ownFields ++ node.extras) := by
  rcases node with ⟨type, value, children, extras⟩
  rw [toJson, ownFields]

theorem mem_ownNames_of_mem_ownFields {node : Node} :
    ∀ field ∈ node.ownFields, field.1 ∈ ownNames := by
  unfold ownFields
  cases node.value <;> cases node.children <;> simp [childrenToJson, ownNames]

theorem lookup?_value_ownFields (node : Node) :
    Json.lookup? "value" node.ownFields = node.value := by
  unfold ownFields Json.lookup?
  cases node.value <;> cases node.children <;> simp [List.lookup_cons, childrenToJson]

theorem lookup?_children_ownFields (node : Node) : Json.lookup? "children" node.ownFields =
    node.children.toOption.map fun nodes => .list (nodesToJson nodes) := by
  unfold ownFields Json.lookup?
  cases node.value <;> cases node.children <;>
    simp [List.lookup_cons, childrenToJson, Slot.toOption]

theorem extrasApart_of_extras_eq {node : Node} {fields : List (String × Json)}
    (h : node.extras = extrasOf fields) : node.ExtrasApart := by
  intro extra hextra
  rw [h, extrasOf] at hextra
  simpa using (List.mem_filter.1 hextra).2

section Written

variable {node : Node} (h : node.ExtrasApart)
include h

/-- Under a name that has a meaning of its own stands what the node itself gives. -/
theorem ExtrasApart.field?_toJson {name : String} (hname : name ∈ ownNames) :
    node.toJson.field? name = Json.lookup? name node.ownFields := by
  have hnone : node.extras.lookup name = none := by
    rw [List.lookup_eq_none_iff]
    intro extra hextra
    have hne : name ≠ extra.1 := by
      rintro rfl
      exact h extra hextra hname
    simpa using hne
  rw [toJson_eq, Json.field?, Json.lookup?, List.lookup_append, hnone, Option.or_none, Json.lookup?]

theorem ExtrasApart.field?_type : node.toJson.field? "type" = some (.string node.type) := by
  rw [h.field?_toJson (by decide)]
  rfl

theorem ExtrasApart.field?_value : node.toJson.field? "value" = node.value := by
  rw [h.field?_toJson (by decide), lookup?_value_ownFields]

theorem ExtrasApart.field?_children : node.toJson.field? "children" =
    node.children.toOption.map fun nodes => .list (nodesToJson nodes) := by
  rw [h.field?_toJson (by decide), lookup?_children_ownFields]

theorem ExtrasApart.extrasOf_append : extrasOf (node.ownFields ++ node.extras) = node.extras := by
  have hown : extrasOf node.ownFields = [] := by
    rw [extrasOf, List.filter_eq_nil_iff]
    intro field hfield
    simpa using mem_ownNames_of_mem_ownFields field hfield
  have hextras : extrasOf node.extras = node.extras := by
    rw [extrasOf, List.filter_eq_self]
    intro extra hextra
    simpa using h extra hextra
  have hsplit : extrasOf (node.ownFields ++ node.extras) =
      extrasOf node.ownFields ++ extrasOf node.extras := List.filter_append ..
  rw [hsplit, hown, hextras, List.nil_append]

end Written

/-! ## Reading it again -/

/-- The node has so many levels at most, and its extras are apart, here and everywhere below. -/
def Fits : (levels : Nat) → Node → Prop
  | 0, _ => False
  | levels + 1, node => node.ExtrasApart ∧ ∀ child ∈ node.childList, Fits levels child

theorem fits_of_check {levels : Nat} {tree : Json} {node : Node}
    (h : check levels tree = .ok node) : node.Fits levels := by
  induction levels generalizing tree node with
  | zero => cases h
  | succ levels ih =>
    rcases check_eq_ok_iff.1 h with ⟨lower, fields, hlevels, -, -, hchildren, -, hextras⟩
    cases hlevels
    constructor
    · exact extrasApart_of_extras_eq hextras
    · intro child hchild
      rw [checkChildren_eq_ok_iff] at hchildren
      unfold childList at hchild
      cases hslot : node.children with
      | absent | null =>
        rw [hslot] at hchild
        exact absurd hchild List.not_mem_nil
      | filled nodes =>
        rw [hslot] at hchildren hchild
        rcases hchildren with ⟨items, -, hnodes⟩
        rcases exists_of_mem_each hnodes hchild with ⟨item, hitem⟩
        exact ih hitem

/-- Escaping changes neither extras nor levels. -/
theorem Fits.of_escape {levels : Nat} {settings : Settings} {first : Bool} {node result : Node}
    {records : List Change} (hfits : node.Fits levels)
    (h : node.escape settings first = .ok (result, records)) : result.Fits levels := by
  induction levels generalizing first node result records with
  | zero => exact hfits
  | succ levels ih =>
    by_cases hpass : node.type ∈ settings.passthroughTypes
    · rw [escape_eq, if_pos hpass] at h
      cases h
      exact hfits
    · rcases rewritten_of_escape h hpass with ⟨hrewritten, hrel⟩
      constructor
      · have hextras : result.extras = node.extras := hrewritten.extras
        unfold ExtrasApart
        rw [hextras]
        exact hfits.1
      · intro child hchild
        rcases List.mem_iff_getElem?.1 hchild with ⟨i, hi⟩
        have hboth := hrel i
        rw [hi] at hboth
        generalize hbefore : node.childList[i]? = before at hboth
        cases hboth with
        | some hescape =>
          rcases hescape with ⟨own, hescape⟩
          exact ih (hfits.2 _ (List.mem_of_getElem? hbefore)) hescape

theorem each_nodesToJson {check : Json → Checked Node} {nodes : List Node}
    (h : ∀ node ∈ nodes, check node.toJson = .ok node.tidy) (index : Nat) :
    each check index (nodesToJson nodes) = .ok (tidyNodes nodes) := by
  induction nodes generalizing index with
  | nil => rfl
  | cons node nodes ih =>
    have hnode := h node List.mem_cons_self
    have hrest := ih (fun other hother => h other (List.mem_cons_of_mem node hother)) (index + 1)
    rw [nodesToJson, each, hnode, hrest]
    rfl

/-- A node that fits can be read of its object, and is tidy then. -/
theorem Fits.check_toJson {levels : Nat} {node : Node} (h : node.Fits levels) :
    check levels node.toJson = .ok node.tidy := by
  induction levels generalizing node with
  | zero => exact h.elim
  | succ levels ih =>
    rcases h with ⟨hextras, hbelow⟩
    have htype := hextras.field?_type
    have hvalue := hextras.field?_value
    have hchildren := hextras.field?_children
    rw [toJson_eq, Json.field?] at htype hvalue hchildren
    rw [check_eq_ok_iff, toJson_eq]
    refine ⟨levels, _, rfl, rfl, ?_, ?_, ?_, ?_⟩
    · rw [checkType_eq_ok_iff, htype, tidy_type]
    · rw [checkChildren_eq_ok_iff, hchildren, tidy_children]
      unfold childList at hbelow
      cases hslot : node.children with
      | absent | null => rfl
      | filled nodes =>
        rw [hslot] at hbelow
        refine ⟨nodesToJson nodes, rfl, each_nodesToJson (fun child hchild => ?_) 0⟩
        exact ih (hbelow child hchild)
    · rw [hvalue, tidy_value]
    · rw [hextras.extrasOf_append, tidy_extras]

/-! ## Trees -/

theorem fits_of_ofTree {tree : Json} {root : Node} (h : ofTree tree = .ok root) :
    root.Fits levels := fits_of_check (ofTree_eq_ok_iff.1 h)

/-- A run over what is written of a node is the run over the node. -/
theorem Fits.escapeTree_toJson {node : Node} (h : node.Fits levels) (settings : Settings) :
    escapeTree settings node.toJson = (node.escape settings false).map fun done =>
      (done.1.toJson, .entered node.type :: done.2.map .changed) := by
  have hroot : ofTree node.toJson = .ok node.tidy := ofTree_eq_ok_iff.2 h.check_toJson
  rw [escapeTree_of_ofTree hroot, escape_tidy, tidy_type]
  cases node.escape settings false with
  | error e => rfl
  | ok done => simp only [Except.map, toJson_tidy]

end Node

end LiteralMarkdown
