import LiteralMarkdown.Proofs.Schema.Checked
import LiteralMarkdown.Proofs.Tree.Places
import Mathlib.Data.Option.Defs

/-!
# Valid trees

A value stands for a tree of nodes just if it breaks the schema at no place, and then it holds the
same types and values at the same places as the tree of nodes does. The main statements are
`Node.fails_check_iff` and `Node.survey_eq_of_check`; `Node.check_eq_ok_iff` opens one level of what
is read.
-/

namespace LiteralMarkdown

open Schema Checked

namespace Json

/-- What an object gives under a name. Other values give nothing. -/
def field? (name : String) : Json → Option Json
  | .object fields => lookup? name fields
  | _ => none

/-- The items of the list that a value gives as its children, if it gives one. -/
def childItems (tree : Json) : List Json :=
  match tree.field? "children" with
  | some (.list items) => items
  | _ => []

/-- The value at a place. -/
def at? : Json → List Nat → Option Json
  | tree, [] => some tree
  | tree, i :: path =>
    match tree.childItems[i]? with
    | none => none
    | some child => child.at? path

/-- The types and values that a value and all below it give, where they give a type. -/
def survey (tree : Json) : Survey := fun path =>
  (tree.at? path).bind fun node =>
    match node.field? "type" with
    | some (.string type) => some (type, (node.field? "value").getD .null)
    | _ => none

/-- The value gives a text as its type, so that it is an object, and as its children nothing, null
or a list. -/
structure IsNode (node : Json) : Prop where
  type : ∃ s, node.field? "type" = some (.string s)
  children : node.field? "children" = none ∨ node.field? "children" = some .null ∨
    ∃ items, node.field? "children" = some (.list items)

/-- The value at the place is no node, or lies below so many levels. -/
def BreaksAt (levels : Nat) (tree : Json) (path : List Nat) : Prop :=
  ∃ node, tree.at? path = some node ∧ (levels ≤ path.length ∨ ¬ node.IsNode)

theorem at?_cons (tree : Json) (i : Nat) (path : List Nat) :
    tree.at? (i :: path) = (tree.childItems[i]?).bind fun child => child.at? path := by
  rw [at?]
  cases tree.childItems[i]? <;> rfl

theorem survey_cons (tree : Json) (i : Nat) (path : List Nat) :
    tree.survey (i :: path) = (tree.childItems[i]?).bind fun child => child.survey path := by
  unfold survey
  rw [at?_cons, Option.bind_assoc]

/-- A tree breaks the schema at its top or below one of its children. -/
theorem exists_breaksAt_iff {levels : Nat} {tree : Json} :
    (∃ path, tree.BreaksAt (levels + 1) path) ↔
      ¬ tree.IsNode ∨ ∃ (i : Nat) (child : Json), tree.childItems[i]? = some child ∧
        ∃ path, child.BreaksAt levels path := by
  constructor
  · rintro ⟨path, node, hnode, hbreaks⟩
    cases path with
    | nil =>
      -- The top itself is not too deep, as there is a level left for it.
      cases hnode
      rcases hbreaks with hdeep | hnot
      · exact absurd hdeep (Nat.not_succ_le_zero levels)
      · exact Or.inl hnot
    | cons i path =>
      rw [at?_cons, Option.bind_eq_some_iff] at hnode
      rcases hnode with ⟨child, hchild, hnode⟩
      refine Or.inr ⟨i, child, hchild, path, node, hnode, ?_⟩
      exact hbreaks.imp_left Nat.le_of_succ_le_succ
  · rintro (hnot | ⟨i, child, hchild, path, node, hnode, hbreaks⟩)
    · exact ⟨[], tree, rfl, Or.inr hnot⟩
    · refine ⟨i :: path, node, ?_, hbreaks.imp_left Nat.succ_le_succ⟩
      rw [at?_cons, hchild, Option.bind_some, hnode]

end Json

namespace Node

theorem checkType_eq_ok_iff {fields : List (String × Json)} {type : String} :
    checkType fields = .ok type ↔ Json.lookup? "type" fields = some (.string type) := by
  unfold checkType
  split
  · rename_i hgiven
    simp [hgiven, under_eq_ok_iff, fail]
  · rename_i s hgiven
    simp [hgiven]
  · rename_i other hnot hgiven
    rw [hgiven, under_eq_ok_iff]
    constructor
    · intro h
      cases h
    · intro h
      exact absurd (Option.some.inj h) (hnot type)

theorem fails_checkType_iff {fields : List (String × Json)} :
    Fails (checkType fields) ↔ ¬ ∃ s, (Json.object fields).field? "type" = some (.string s) := by
  have hfield : (Json.object fields).field? "type" = Json.lookup? "type" fields := rfl
  rw [fails_iff_forall_ne, hfield, not_exists]
  simp only [ne_eq, checkType_eq_ok_iff]

theorem fails_checkChildren_iff {check : Json → Checked Node} {fields : List (String × Json)} :
    Fails (checkChildren check fields) ↔
      ¬ ((Json.object fields).field? "children" = none ∨
        (Json.object fields).field? "children" = some .null ∨
        ∃ items, (Json.object fields).field? "children" = some (.list items)) ∨
      ∃ (i : Nat) (child : Json), (Json.object fields).childItems[i]? = some child ∧
        Fails (check child) := by
  have hfield : (Json.object fields).field? "children" = Json.lookup? "children" fields := rfl
  unfold checkChildren Json.childItems
  rw [hfield]
  split
  · rename_i h
    simp [h, not_fails_ok]
  · rename_i h
    simp [h, not_fails_ok]
  · rename_i items h
    rw [h, fails_map_iff, fails_under_iff, fails_each_iff]
    simp
  · rename_i other hnull hlist h
    have hnot : ¬ (some other = none ∨ some other = some .null ∨
        ∃ items, some other = some (Json.list items)) := by
      rintro (h | h | ⟨items, h⟩)
      · cases h
      · exact hnull (Option.some.inj h)
      · exact hlist items (Option.some.inj h)
    rw [h, fails_under_iff]
    exact ⟨fun _ => Or.inl hnot, fun _ => fails_fail _ _⟩

/-- A value is refused just if it breaks the schema at some place. -/
theorem fails_check_iff (levels : Nat) (tree : Json) :
    Fails (check levels tree) ↔ ∃ path, tree.BreaksAt levels path := by
  induction levels generalizing tree with
  | zero => exact ⟨fun _ => ⟨[], tree, rfl, Or.inl (Nat.zero_le _)⟩, fun _ => fails_fail _ _⟩
  | succ levels ih =>
    rw [Json.exists_breaksAt_iff]
    cases tree with
    | object fields =>
      rw [check, fails_map_iff, fails_both_iff, fails_checkType_iff, fails_checkChildren_iff]
      simp only [ih]
      constructor
      · rintro (htype | hchildren | hbelow)
        · exact Or.inl fun h => htype h.type
        · exact Or.inl fun h => hchildren h.children
        · exact Or.inr hbelow
      · rintro (hnot | hbelow)
        · by_cases htype : ∃ s, (Json.object fields).field? "type" = some (.string s)
          · exact Or.inr (Or.inl fun hchildren => hnot ⟨htype, hchildren⟩)
          · exact Or.inl htype
        · exact Or.inr (Or.inr hbelow)
    | null | bool b | int n | float x | string s | list items =>
      refine ⟨fun _ => Or.inl fun h => ?_, fun _ => fails_fail _ _⟩
      rcases h.type with ⟨s, hs⟩
      cases hs

/-! ## What is read -/

theorem checkChildren_eq_ok_iff {check : Json → Checked Node} {fields : List (String × Json)}
    {children : Slot (List Node)} :
    checkChildren check fields = .ok children ↔
      match children with
      | .absent => Json.lookup? "children" fields = none
      | .null => Json.lookup? "children" fields = some .null
      | .filled nodes => ∃ items, Json.lookup? "children" fields = some (.list items) ∧
          each check 0 items = .ok nodes := by
  unfold checkChildren
  split
  · rename_i hgiven
    cases children <;> simp [hgiven]
  · rename_i hgiven
    cases children <;> simp [hgiven]
  · rename_i items hgiven
    cases children <;> simp [hgiven, map_eq_ok_iff, under_eq_ok_iff]
  · rename_i other hnull hlist hgiven
    rw [under_eq_ok_iff]
    cases children with
    | absent => simp [hgiven, fail]
    | null => simpa [hgiven, fail] using hnull
    | filled nodes =>
      simp only [hgiven, fail, reduceCtorEq, false_iff, not_exists, not_and]
      intro items hitems
      exact absurd (Option.some.inj hitems) (hlist items)

theorem check_eq_ok_iff {levels : Nat} {tree : Json} {node : Node} :
    check levels tree = .ok node ↔ ∃ lower fields, levels = lower + 1 ∧ tree = .object fields ∧
      checkType fields = .ok node.type ∧ checkChildren (check lower) fields = .ok node.children ∧
      node.value = Json.lookup? "value" fields ∧ node.extras = extrasOf fields := by
  constructor
  · intro h
    cases levels with
    | zero => cases h
    | succ lower =>
      cases tree with
      | object fields =>
        rw [check, map_eq_ok_iff] at h
        rcases h with ⟨⟨type, children⟩, h, rfl⟩
        rcases both_eq_ok_iff.1 h with ⟨htype, hchildren⟩
        exact ⟨lower, fields, rfl, rfl, htype, hchildren, rfl, rfl⟩
      | null | bool b | int n | float x | string s | list items => cases h
  · rcases node with ⟨type, value, children, extras⟩
    rintro ⟨lower, fields, rfl, rfl, htype, hchildren, rfl, rfl⟩
    rw [check, map_eq_ok_iff]
    exact ⟨(type, children), both_eq_ok_iff.2 ⟨htype, hchildren⟩, rfl⟩

/-- What a value is that stands for a node. -/
theorem exists_of_check_eq_ok {levels : Nat} {tree : Json} {node : Node}
    (h : check levels tree = .ok node) :
    tree.field? "type" = some (.string node.type) ∧ tree.field? "value" = node.value ∧
      ∃ lower, ∀ i : Nat, Option.Rel (fun item child => check lower item = .ok child)
        tree.childItems[i]? node.childList[i]? := by
  rcases check_eq_ok_iff.1 h with ⟨lower, fields, -, rfl, htype, hchildren, hvalue, -⟩
  refine ⟨checkType_eq_ok_iff.1 htype, hvalue.symm, lower, ?_⟩
  have hfield : (Json.object fields).field? "children" = Json.lookup? "children" fields := rfl
  rw [checkChildren_eq_ok_iff] at hchildren
  unfold Json.childItems childList
  rw [hfield]
  cases hslot : node.children with
  | absent | null =>
    rw [hslot] at hchildren
    rw [hchildren]
    exact fun i => .none
  | filled nodes =>
    rw [hslot] at hchildren
    rcases hchildren with ⟨items, hgiven, hnodes⟩
    rw [hgiven]
    exact rel_of_each hnodes

/-- A value and the node that it stands for have the same types and values at the same places. -/
theorem survey_eq_of_check {levels : Nat} {tree : Json} {node : Node}
    (h : check levels tree = .ok node) : tree.survey = node.survey := by
  funext path
  induction path generalizing levels tree node with
  | nil =>
    rcases exists_of_check_eq_ok h with ⟨htype, hvalue, -⟩
    have htop : tree.survey [] = some (node.type, (tree.field? "value").getD .null) := by
      unfold Json.survey
      simp [Json.at?, htype]
    rw [htop, hvalue, survey_nil]
  | cons i path ih =>
    rcases exists_of_check_eq_ok h with ⟨-, -, lower, hrel⟩
    have hi := hrel i
    rw [Json.survey_cons, survey_cons]
    generalize tree.childItems[i]? = item at hi
    generalize node.childList[i]? = child at hi
    cases hi with
    | none => rfl
    | some hchild => exact ih hchild

/-- The root of a tree is the node that its value stands for. -/
theorem ofTree_eq_ok_iff {tree : Json} {node : Node} :
    ofTree tree = .ok node ↔ ofJson tree = .ok node := by
  cases tree with
  | object fields => exact mapError_eq_ok_iff
  | null | bool b | int n | float x | string s | list items =>
    constructor
    · intro h
      cases h
    · intro h
      cases h

end Node

end LiteralMarkdown
