import LiteralMarkdown.Proofs.Tree.Places

/-!
# Sameness of trees

Values and nodes are the same as themselves, and nodes that are the same hold the same texts at the
same places.
-/

namespace LiteralMarkdown

namespace Json

mutual

theorem same_self : (json : Json) → json.same json = true
  | .null => rfl
  | .bool b => by rw [same, beq_self_eq_true]
  | .int n => by rw [same, beq_self_eq_true]
  | .float x => by rw [same, beq_self_eq_true]
  | .string s => by rw [same, beq_self_eq_true]
  | .list items => by rw [same, sameItems_self items]
  | .object fields => by rw [same, sameFields_self fields]

theorem sameItems_self : (items : List Json) → sameItems items items = true
  | [] => rfl
  | item :: items => by rw [sameItems, same_self item, sameItems_self items, Bool.and_self]

theorem sameFields_self : (fields : List (String × Json)) → sameFields fields fields = true
  | [] => rfl
  | (name, value) :: fields => by
    rw [sameFields, beq_self_eq_true, same_self value, sameFields_self fields, Bool.and_self,
      Bool.and_self]

end

end Json

namespace Node

mutual

theorem sameAs_self : (node : Node) → node.sameAs node = true
  | ⟨type, value, children, extras⟩ => by
    rw [sameAs, beq_self_eq_true, Json.same_self, sameChildren_self children,
      Json.sameFields_self, Bool.and_self, Bool.and_self, Bool.and_self]

theorem sameChildren_self : (children : Slot (List Node)) → sameChildren children children = true
  | .absent => rfl
  | .null => rfl
  | .filled nodes => by rw [sameChildren, sameNodes_self nodes]

theorem sameNodes_self : (nodes : List Node) → sameNodes nodes nodes = true
  | [] => rfl
  | node :: nodes => by rw [sameNodes, sameAs_self node, sameNodes_self nodes, Bool.and_self]

end

theorem sameAs_of_sameNodes {nodes nodes' : List Node} (h : sameNodes nodes nodes' = true) {i : Nat}
    {node node' : Node} (hnode : nodes[i]? = some node) (hnode' : nodes'[i]? = some node') :
    node.sameAs node' = true := by
  induction nodes generalizing nodes' i with
  | nil => cases hnode
  | cons head nodes ih =>
    cases nodes' with
    | nil => cases hnode'
    | cons head' nodes' =>
      rw [sameNodes, Bool.and_eq_true] at h
      cases i with
      | zero =>
        cases hnode
        cases hnode'
        exact h.1
      | succ i => exact ih h.2 hnode hnode'

theorem sameAs_child {node node' child child' : Node} (h : node.sameAs node' = true) {i : Nat}
    (hchild : node.childList[i]? = some child) (hchild' : node'.childList[i]? = some child') :
    child.sameAs child' = true := by
  rcases node with ⟨type, value, children, extras⟩
  rcases node' with ⟨type', value', children', extras'⟩
  rw [sameAs, Bool.and_eq_true, Bool.and_eq_true] at h
  have hchildren := h.1.2
  cases children with
  | absent | null => cases hchild
  | filled nodes =>
    cases children' with
    | absent | null => cases hchild'
    | filled nodes' =>
      rw [sameChildren] at hchildren
      exact sameAs_of_sameNodes hchildren hchild hchild'

/-- Nodes that say the same have the same texts. -/
theorem eq_of_sameAs {node node' : Node} (h : node.sameAs node' = true) {path : List Nat}
    {type type' s s' : String} (hfound : node.survey path = some (type, .string s))
    (hfound' : node'.survey path = some (type', .string s')) : s = s' := by
  induction path generalizing node node' with
  | nil =>
    rcases node with ⟨_, value, children, extras⟩
    rcases node' with ⟨_, value', children', extras'⟩
    rw [survey_nil, Option.some.injEq, Prod.mk.injEq] at hfound hfound'
    rw [sameAs, Bool.and_eq_true, Bool.and_eq_true, Bool.and_eq_true] at h
    have hvalue := h.1.1.2
    rw [hfound.2, hfound'.2, Json.same] at hvalue
    exact eq_of_beq hvalue
  | cons i path ih =>
    rw [survey_cons, Option.bind_eq_some_iff] at hfound hfound'
    obtain ⟨child, hchild, hfound⟩ := hfound
    obtain ⟨child', hchild', hfound'⟩ := hfound'
    exact ih (sameAs_child h hchild hchild') hfound hfound'

end Node

end LiteralMarkdown
