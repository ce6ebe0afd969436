import LiteralMarkdown.Tree.Escape

/-!
# Places in a tree

A place in a tree is given by the indices of the children on the way to it. `Node.at?` finds the
node there, and `Node.survey` what escaping looks at: its type and its value. Whether a place is
shielded by a passthrough node and which of two places comes first in a run over the tree are said
of places alone.
-/

namespace LiteralMarkdown

/-- How many items a slot holds, if it is filled. -/
def Slot.size {α : Type} : Slot (List α) → Slot Nat
  | .absent => .absent
  | .null => .null
  | .filled items => .filled items.length

/-- The type of the node and its value at each place of a tree. A value that was not given is
null. -/
abbrev Survey := List Nat → Option (String × Json)

/-- The place is a passthrough node or lies below one. -/
def Settings.Shields (settings : Settings) (survey : Survey) (path : List Nat) : Prop :=
  ∃ above type value, above <+: path ∧ survey above = some (type, value) ∧
    type ∈ settings.passthroughTypes

/-- Whether the node at the place comes first in its parent. Of the root it is given. -/
def comesFirst (first : Bool) (path : List Nat) : Bool :=
  match path.getLast? with
  | none => first
  | some i => i == 0

theorem comesFirst_cons (first : Bool) (i : Nat) (path : List Nat) :
    comesFirst first (i :: path) = comesFirst (i == 0) path := by
  cases path with
  | nil => rfl
  | cons j path =>
    unfold comesFirst
    rw [List.getLast?_cons_cons, List.getLast?_cons]

/-- The first place comes before the second where children, from left to right, come before their
parent. -/
def PostBefore : List Nat → List Nat → Prop
  | [], _ => False
  | _ :: _, [] => True
  | i :: path, j :: path' => i < j ∨ (i = j ∧ PostBefore path path')

namespace Node

/-- The children of a node, none if it has no list of them. -/
def childList (node : Node) : List Node := node.children.toOption.getD []

/-- The node at a place. -/
def at? : Node → List Nat → Option Node
  | node, [] => some node
  | node, i :: path =>
    match node.childList[i]? with
    | none => none
    | some child => child.at? path

/-- The types and values of a node and of all below it. -/
def survey (node : Node) : Survey := fun path =>
  (node.at? path).map fun found => (found.type, found.value.getD .null)

theorem at?_cons_of_none {node : Node} {i : Nat} (h : node.childList[i]? = none) (path : List Nat) :
    node.at? (i :: path) = none := by
  rw [at?, h]

theorem at?_cons_of_some {node child : Node} {i : Nat} (h : node.childList[i]? = some child)
    (path : List Nat) : node.at? (i :: path) = child.at? path := by
  rw [at?, h]

theorem survey_nil (node : Node) : node.survey [] = some (node.type, node.value.getD .null) := rfl

theorem survey_cons (node : Node) (i : Nat) (path : List Nat) :
    node.survey (i :: path) = (node.childList[i]?).bind fun child => child.survey path := by
  unfold survey
  cases h : node.childList[i]? with
  | none => rw [at?_cons_of_none h, Option.map_none, Option.bind_none]
  | some child => rw [at?_cons_of_some h, Option.bind_some]

/-- A place is shielded by the node at the top or, below a child, by what shields it there. -/
theorem shields_cons {settings : Settings} {node : Node} {i : Nat} {path : List Nat} :
    settings.Shields node.survey (i :: path) ↔ node.type ∈ settings.passthroughTypes ∨
      ∃ child, node.childList[i]? = some child ∧ settings.Shields child.survey path := by
  constructor
  · rintro ⟨above, type, value, hpre, hfound, htype⟩
    rcases List.prefix_cons_iff.1 hpre with rfl | ⟨above', rfl, hpre'⟩
    · rw [survey_nil] at hfound
      cases hfound
      exact Or.inl htype
    · rw [survey_cons, Option.bind_eq_some_iff] at hfound
      rcases hfound with ⟨child, hchild, hfound⟩
      exact Or.inr ⟨child, hchild, above', type, value, hpre', hfound, htype⟩
  · rintro (htype | ⟨child, hchild, above, type, value, hpre, hfound, htype⟩)
    · exact ⟨[], _, _, List.nil_prefix, survey_nil node, htype⟩
    · refine ⟨i :: above, type, value, ?_, ?_, htype⟩
      · exact List.prefix_cons_iff.2 (Or.inr ⟨above, rfl, hpre⟩)
      · rw [survey_cons, hchild, Option.bind_some, hfound]

theorem shields_nil {settings : Settings} {node : Node} :
    settings.Shields node.survey [] ↔ node.type ∈ settings.passthroughTypes := by
  constructor
  · rintro ⟨above, type, value, hpre, hfound, htype⟩
    rw [List.prefix_nil.1 hpre, survey_nil] at hfound
    cases hfound
    exact htype
  · intro htype
    exact ⟨[], _, _, List.nil_prefix, survey_nil node, htype⟩

/-- A passthrough node shields all below it. -/
theorem shields_of_mem {settings : Settings} {node : Node}
    (h : node.type ∈ settings.passthroughTypes) (path : List Nat) :
    settings.Shields node.survey path :=
  ⟨[], _, _, List.nil_prefix, survey_nil node, h⟩

/-- What holds of a node if it holds of its children holds of all nodes. -/
theorem induction_on_children {P : Node → Prop}
    (step : ∀ node : Node, (∀ child ∈ node.childList, P child) → P node) (node : Node) :
    P node := by
  induction hsize : sizeOf node using Nat.strongRecOn generalizing node with
  | ind n ih =>
    refine step node fun child hchild => ih (sizeOf child) ?_ child rfl
    rw [← hsize]
    rcases node with ⟨type, value, children, extras⟩
    cases children with
    | absent => exact absurd hchild List.not_mem_nil
    | null => exact absurd hchild List.not_mem_nil
    | filled nodes =>
      have hlt := List.sizeOf_lt_of_mem (show child ∈ nodes from hchild)
      simp only [mk.sizeOf_spec, Slot.filled.sizeOf_spec]
      omega

end Node

end LiteralMarkdown
