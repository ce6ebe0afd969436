import LiteralMarkdown.Proofs.Schema.Checked
import LiteralMarkdown.Proofs.Tree.Rewriting
import LiteralMarkdown.Tree.Document
import Mathlib.Data.List.TakeWhile

/-!
# Documents and trees

A tree is a document without any text that is no text of characters. Reading it back from its data
gives the tree again, so that escaping the document is escaping the tree. Documents with other texts
are walked through instead. Over a tree that walk comes to the same refusal, and without one to the
same report.

* `Json.ofData_toData`, `Json.isWhole_toData`: the data of a tree;
* `escapeDocument_toData`: the document of a tree is escaped as the tree;
* `Node.sketch_escape`: one walk after the other, by recursion on the nodes;
* `Sketch.walk_toData`: the walk through the document of a tree is the run over the tree.
-/

namespace LiteralMarkdown

open Schema Checked

namespace Json

/-! ## The data of a tree -/

mutual

theorem ofData_toData : (tree : Json) → ofData tree.toData = tree
  | .null => rfl
  | .bool _ => rfl
  | .int _ => rfl
  | .float _ => rfl
  | .string _ => rfl
  | .list items => by rw [toData, ofData, itemsOfData_itemsToData items]
  | .object fields => by rw [toData, ofData, fieldsOfData_fieldsToData fields]

theorem itemsOfData_itemsToData : (items : List Json) → itemsOfData (itemsToData items) = items
  | [] => rfl
  | item :: items => by
    rw [itemsToData, itemsOfData, ofData_toData item, itemsOfData_itemsToData items]

theorem fieldsOfData_fieldsToData :
    (fields : List (String × Json)) → fieldsOfData (fieldsToData fields) = fields
  | [] => rfl
  | (name, value) :: fields => by
    rw [fieldsToData, fieldsOfData, ofData_toData value, fieldsOfData_fieldsToData fields]
    rfl

end

mutual

theorem isWhole_toData : (tree : Json) → tree.toData.isWhole = true
  | .null => rfl
  | .bool _ => rfl
  | .int _ => rfl
  | .float _ => rfl
  | .string _ => rfl
  | .list items => by rw [toData, Data.isWhole, areWhole_itemsToData items]
  | .object fields => by rw [toData, Data.isWhole, arePairsWhole_fieldsToData fields]

theorem areWhole_itemsToData : (items : List Json) → Data.areWhole (itemsToData items) = true
  | [] => rfl
  | item :: items => by
    rw [itemsToData, Data.areWhole, isWhole_toData item, areWhole_itemsToData items, Bool.and_self]

theorem arePairsWhole_fieldsToData :
    (fields : List (String × Json)) → Data.arePairsWhole (fieldsToData fields) = true
  | [] => rfl
  | (name, value) :: fields => by
    rw [fieldsToData, Data.arePairsWhole, isWhole_toData value, arePairsWhole_fieldsToData fields]
    rfl

end

theorem itemsToData_eq_map (items : List Json) : itemsToData items = items.map toData := by
  induction items with
  | nil => rfl
  | cons item items ih => rw [itemsToData, ih, List.map_cons]

theorem valueOf?_fieldsToData (name : String) (fields : List (String × Json)) :
    Data.valueOf? name (fieldsToData fields) = (lookup? name fields).map toData := by
  induction fields with
  | nil => rfl
  | cons field fields ih =>
    rcases field with ⟨other, value⟩
    rw [fieldsToData, lookup?, List.lookup_cons]
    unfold Data.valueOf? lookup? at *
    by_cases hname : other = name
    · simp [hname]
    · simp [hname, beq_false_of_ne (Ne.symm hname), ih]

theorem brokenKey?_fieldsToData (fields : List (String × Json)) :
    Data.brokenKey? (fieldsToData fields) = none := by
  induction fields with
  | nil => rfl
  | cons field fields ih => exact ih

end Json

variable {settings : Settings}

/-- The document of a tree is escaped as the tree. -/
theorem escapeDocument_toData (settings : Settings) (tree : Json) :
    escapeDocument settings tree.toData =
      (escapeTree settings tree).map fun done => some done.1 := by
  unfold escapeDocument
  rw [if_pos tree.isWhole_toData, tree.ofData_toData]

/-! ## Checks of mapped values -/

namespace Schema.Checked

variable {α α' β β' : Type} {f : α → α'} {g : β → β'}

theorem under_map (steps : List Step) (a : Checked α) :
    under steps (a.map f) = (under steps a).map f := by
  cases a <;> rfl

theorem both_map (a : Checked α) (b : Checked β) :
    both (a.map f) (b.map g) = (both a b).map (Prod.map f g) := by
  cases a <;> cases b <;> rfl

theorem each_map {check : α → Checked β} {check' : α' → Checked β'}
    (h : ∀ a, check' (f a) = (check a).map g) (index : Nat) (items : List α) :
    each check' index (items.map f) = (each check index items).map (List.map g) := by
  induction items generalizing index with
  | nil => rfl
  | cons item items ih =>
    rw [List.map_cons, each, each, h, under_map, ih, both_map]
    cases both (under [.index index] (check item)) (each check (index + 1) items) <;> rfl

end Schema.Checked

/-! ## The schema -/

namespace Node

mutual

/-- What a walk looks at in a node. -/
def sketch : Node → Sketch
  | ⟨type, value, children, _⟩ => ⟨.text type, (value.getD .null).toData, childSketches children⟩

/-- What a walk looks at in the children of a node. -/
def childSketches : Slot (List Node) → List Sketch
  | .absent => []
  | .null => []
  | .filled nodes => sketches nodes

/-- What a walk looks at in nodes that follow one another. -/
def sketches : List Node → List Sketch
  | [] => []
  | node :: nodes => node.sketch :: sketches nodes

end

theorem sketches_eq_map (nodes : List Node) : sketches nodes = nodes.map sketch := by
  induction nodes with
  | nil => rfl
  | cons node nodes ih => rw [sketches, ih, List.map_cons]

end Node

namespace Sketch

variable {fields : List (String × Json)}

theorem checkType_fieldsToData (fields : List (String × Json)) :
    checkType (Json.fieldsToData fields) = (Node.checkType fields).map .text := by
  unfold checkType Node.checkType
  rw [Json.valueOf?_fieldsToData]
  cases Json.lookup? "type" fields with
  | none => rfl
  | some type => cases type <;> rfl

theorem checkChildren_fieldsToData {check : Data → Checked Sketch} {check' : Json → Checked Node}
    (h : ∀ tree : Json, check tree.toData = (check' tree).map Node.sketch) :
    checkChildren check (Json.fieldsToData fields) =
      (Node.checkChildren check' fields).map Node.childSketches := by
  unfold checkChildren Node.checkChildren
  rw [Json.valueOf?_fieldsToData]
  cases Json.lookup? "children" fields with
  | none => rfl
  | some children =>
    cases children with
    | list items =>
      show under _ (each check 0 (Json.itemsToData items)) = _
      rw [Json.itemsToData_eq_map, each_map h, under_map]
      show _ = (Except.map _ (under _ (each check' 0 items))).map _
      cases under [Step.name "children"] (each check' 0 items) with
      | error faults => rfl
      | ok nodes => exact congrArg Except.ok (Node.sketches_eq_map nodes).symm
    | _ => rfl

/-- The data of a tree break the schema just as the tree does. -/
theorem check_toData (levels : Nat) (tree : Json) :
    check levels tree.toData = (Node.check levels tree).map Node.sketch := by
  induction levels generalizing tree with
  | zero => rfl
  | succ levels ih =>
    cases tree with
    | object fields =>
      rw [Json.toData, check, Json.brokenKey?_fieldsToData, Node.check]
      dsimp only
      -- No name of a tree is broken, so that its type and its children are checked.
      rw [checkType_fieldsToData, checkChildren_fieldsToData ih, both_map,
        Json.valueOf?_fieldsToData]
      cases both (Node.checkType fields) (Node.checkChildren (Node.check levels) fields) with
      | error faults => rfl
      | ok parts => cases Json.lookup? "value" fields <;> rfl
    | _ => rfl

theorem ofDocument_toData (tree : Json) :
    ofDocument tree.toData = (Node.ofTree tree).map Node.sketch := by
  cases tree with
  | object fields =>
    have hcheck := check_toData Node.levels (.object fields)
    rw [Json.toData] at hcheck
    have htype : (Data.valueOf? "type" (Json.fieldsToData fields)).getD .null =
        ((Json.lookup? "type" fields).getD .null).toData := by
      rw [Json.valueOf?_fieldsToData]
      cases Json.lookup? "type" fields <;> rfl
    rw [Json.toData, ofDocument, Node.ofTree, hcheck, htype, if_pos (Json.isWhole_toData _),
      Json.ofData_toData, Node.ofJson]
    cases Node.check Node.levels (.object fields) <;> rfl
  | null => rfl
  | bool b => rfl
  | int n => rfl
  | float x => rfl
  | string s => rfl
  | list items =>
    have hback := Json.ofData_toData (.list items)
    rw [Json.toData] at hback ⊢
    rw [ofDocument, hback]
    · rfl
    · intro pairs hpairs
      cases hpairs

/-! ## The walk -/

/-- What a walk comes to at some nodes: the first refusal, or else all changes. -/
def outcome (settings : Settings) (stops : List Stop) : Except TreeError (List Change) :=
  match stops.findSome? (Stop.refusal? settings) with
  | some e => .error e
  | none => .ok (stops.flatMap Stop.changes)

theorem outcome_append (stops more : List Stop) :
    outcome settings (stops ++ more) = (outcome settings stops).bind fun changes =>
      (outcome settings more).map (changes ++ ·) := by
  unfold outcome
  rw [List.findSome?_append, List.flatMap_append]
  cases stops.findSome? (Stop.refusal? settings) with
  | some e => rfl
  | none => cases more.findSome? (Stop.refusal? settings) <;> rfl

theorem refusal?_of_not_string {first : Bool} {type : String} {value : Json}
    (h : ∀ s, value ≠ .string s) :
    Stop.refusal? settings ⟨first, .text type, value.toData⟩ = some (.valueNotText type value) := by
  have hback := Json.ofData_toData value
  cases value with
  | string s => exact absurd rfl (h s)
  | list items | object fields =>
    exact congrArg (fun value => some (TreeError.valueNotText type value)) hback
  | _ => rfl

theorem outcome_value (first : Bool) (type : String) (value : Json) :
    outcome settings [⟨first, .text type, value.toData⟩] =
      (escapeValue settings first type value).map Prod.snd := by
  unfold outcome
  rw [List.findSome?_singleton, List.flatMap_singleton]
  by_cases hstring : ∃ s, value = .string s
  · obtain ⟨s, rfl⟩ := hstring
    show (match settings.exceeds? s with | some e => _ | none => _) = Except.map _
      (match settings.exceeds? s with | some e => _ | none => _)
    cases settings.exceeds? s <;> rfl
  · rw [refusal?_of_not_string (not_exists.1 hstring)]
    cases value with
    | string s => exact absurd ⟨s, rfl⟩ hstring
    | _ => rfl

end Sketch

namespace Node

mutual

/-- A walk through a node comes to what escaping it comes to. -/
theorem sketch_escape (settings : Settings) (first : Bool) : (node : Node) →
    Sketch.outcome settings (node.sketch.stops settings first) =
      (node.escape settings first).map Prod.snd
  | ⟨type, value, children, extras⟩ => by
    have hshown : (Data.text type).shown = type := rfl
    rw [sketch, Sketch.stops, escape_eq, hshown]
    by_cases hpass : type ∈ settings.passthroughTypes
    · rw [if_pos hpass, if_pos hpass]
      rfl
    · -- The children come first, and what they come to is in front of what the value comes to.
      rw [if_neg hpass, if_neg hpass, Sketch.outcome_append, childSketches_escape settings children]
      cases escapeChildren settings children with
      | error e => rfl
      | ok done =>
        by_cases htext : type ∈ settings.textTypes
        · simp only [if_pos htext, Sketch.outcome_value]
          cases escapeValue settings first type (value.getD .null) <;> rfl
        · simp only [if_neg htext]
          exact congrArg Except.ok (List.append_nil done.2)

theorem childSketches_escape (settings : Settings) : (children : Slot (List Node)) →
    Sketch.outcome settings (Sketch.stopsOf settings true (childSketches children)) =
      (escapeChildren settings children).map Prod.snd
  | .absent => rfl
  | .null => rfl
  | .filled nodes => by
    rw [childSketches, sketches_escape settings true nodes, escapeChildren]
    cases escapeNodes settings true nodes <;> rfl

theorem sketches_escape (settings : Settings) (first : Bool) : (nodes : List Node) →
    Sketch.outcome settings (Sketch.stopsOf settings first (sketches nodes)) =
      (escapeNodes settings first nodes).map Prod.snd
  | [] => rfl
  | node :: nodes => by
    rw [sketches, Sketch.stopsOf, Sketch.outcome_append, sketch_escape settings first node,
      sketches_escape settings false nodes, escapeNodes]
    cases node.escape settings first with
    | error e => rfl
    | ok done => cases escapeNodes settings false nodes <;> rfl

end

end Node

namespace Sketch

theorem walk_eq (document : Data) :
    walk settings document = (ofDocument document).bind fun root =>
      (outcome settings (root.stops settings false)).map fun changes =>
        .entered root.type.shown :: changes.map .changed := by
  unfold walk outcome refusal? report
  congr
  funext root
  cases hrefusal : (root.stops settings false).findSome? (Stop.refusal? settings) with
  | some e => rfl
  | none =>
    -- Without a refusal the walk passes all that it comes to.
    have hpassed : (root.stops settings false).takeWhile
        (fun stop => (stop.refusal? settings).isNone) = root.stops settings false := by
      refine List.takeWhile_eq_self_iff.2 fun stop hstop => ?_
      rw [List.findSome?_eq_none_iff.1 hrefusal stop hstop]
      rfl
    simp only [hpassed]
    rfl

/-- Over the document of a tree, the walk is refused where the run over the tree is refused, and for
the same reason, and else it reports the same. -/
theorem walk_toData (settings : Settings) (tree : Json) :
    walk settings tree.toData = (escapeTree settings tree).map Prod.snd := by
  rw [walk_eq, ofDocument_toData]
  unfold escapeTree
  cases Node.ofTree tree with
  | error e => rfl
  | ok root =>
    show Except.map _ (outcome settings (root.sketch.stops settings false)) =
      Except.map _ (root.escape settings false >>= _)
    rw [Node.sketch_escape]
    cases root.escape settings false with
    | error e => rfl
    | ok done => cases root; rfl

end Sketch

end LiteralMarkdown
