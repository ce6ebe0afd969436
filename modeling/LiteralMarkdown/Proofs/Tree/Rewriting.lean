import LiteralMarkdown.Proofs.Tree.Places
import Mathlib.Data.Option.Defs

/-!
# What escaping rewrites

Escaping a tree leaves everything as it is but the values of text-bearing nodes that no passthrough
node shields. `Node.escape_eq` opens one level of the traversal, and by induction on the place
`Node.escape_rewrites` says what becomes of the node there.
-/

namespace LiteralMarkdown

/-- Two steps succeed if the first one does and then the second one. -/
theorem bind_eq_ok_iff {ε α β : Type} {x : Except ε α} {f : α → Except ε β} {b : β} :
    (x >>= f) = .ok b ↔ ∃ a, x = .ok a ∧ f a = .ok b := by
  cases x with
  | error e => simp [bind, Except.bind]
  | ok a => simp [bind, Except.bind]

/-- A value that is escaped is a text within the limit. Its text is escaped for its place, and that
is recorded just if it changes the text. -/
theorem escapeValue_eq_ok_iff {settings : Settings} {first : Bool} {type escaped : String}
    {value : Json} {own : List Change} :
    escapeValue settings first type value = .ok (escaped, own) ↔ ∃ s, value = .string s ∧
      settings.exceeds? s = none ∧ escaped = escapeText first s ∧
      own = if escaped = s then [] else [⟨type, s, escaped⟩] := by
  cases value with
  | string s =>
    unfold escapeValue
    cases hlimit : settings.exceeds? s with
    | some e => simp [hlimit]
    | none =>
      simp only [Except.ok.injEq, Prod.mk.injEq, Json.string.injEq, exists_eq_left', hlimit,
        true_and]
      constructor
      · rintro ⟨rfl, rfl⟩
        exact ⟨rfl, rfl⟩
      · rintro ⟨rfl, rfl⟩
        exact ⟨rfl, rfl⟩
  | null | bool b | int n | float x | list items | object fields => simp [escapeValue]

namespace Node

/-- One level of the traversal. -/
theorem escape_eq (settings : Settings) (first : Bool) (node : Node) :
    node.escape settings first =
      if node.type ∈ settings.passthroughTypes then .ok (node, [])
      else match escapeChildren settings node.children with
        | .error e => .error e
        | .ok (children, below) =>
          if node.type ∈ settings.textTypes then
            match escapeValue settings first node.type (node.value.getD .null) with
            | .error e => .error e
            | .ok (escaped, own) =>
              .ok (⟨node.type, some (.string escaped), children, node.extras⟩, below ++ own)
          else .ok (⟨node.type, node.value, children, node.extras⟩, below) := by
  rcases node with ⟨type, value, children, extras⟩
  rw [escape]
  by_cases hpass : type ∈ settings.passthroughTypes
  · rw [if_pos hpass, if_pos hpass]
  · rw [if_neg hpass, if_neg hpass]
    cases hchildren : escapeChildren settings children with
    | error e => rfl
    | ok done =>
      by_cases htext : type ∈ settings.textTypes
      · cases hvalue : escapeValue settings first type (value.getD .null) with
        | error e => simp [bind, Except.bind, htext]
        | ok done => simp [bind, Except.bind, pure, Except.pure, htext]
      · simp [bind, Except.bind, pure, Except.pure, htext]

/-- A run over a tree is the run over its root, and its result is written. -/
theorem escapeTree_of_ofTree {tree : Json} {root : Node} (h : ofTree tree = .ok root)
    (settings : Settings) : escapeTree settings tree =
      (root.escape settings false).map fun done =>
        (done.1.toJson, .entered root.type :: done.2.map .changed) := by
  rw [escapeTree, h]
  show (root.escape settings false >>= _) = _
  cases root.escape settings false with
  | error e => rfl
  | ok done => rfl

/-- Each of some nodes is escaped on its own, the first of them as coming first. -/
theorem rel_of_escapeNodes {settings : Settings} {first : Bool} {nodes nodes' : List Node}
    {records : List Change} (h : escapeNodes settings first nodes = .ok (nodes', records)) :
    nodes'.length = nodes.length ∧ ∀ i, Option.Rel
      (fun node node' => ∃ own, escape settings (first && i == 0) node = .ok (node', own))
      nodes[i]? nodes'[i]? := by
  induction nodes generalizing first nodes' records with
  | nil =>
    rw [escapeNodes] at h
    cases h
    exact ⟨rfl, fun i => .none⟩
  | cons node nodes ih =>
    rw [escapeNodes] at h
    rcases bind_eq_ok_iff.1 h with ⟨⟨node', own⟩, hnode, h⟩
    rcases bind_eq_ok_iff.1 h with ⟨⟨rest, more⟩, hrest, h⟩
    cases h
    rcases ih hrest with ⟨hlength, hrel⟩
    refine ⟨by rw [List.length_cons, List.length_cons, hlength], ?_⟩
    intro i
    cases i with
    | zero =>
      rw [List.getElem?_cons_zero, List.getElem?_cons_zero]
      exact .some ⟨own, by simpa using hnode⟩
    | succ i =>
      rw [List.getElem?_cons_succ, List.getElem?_cons_succ]
      simpa using hrel i

/-- The children of a node are escaped each on its own, and the slot keeps its shape. -/
theorem rel_of_escapeChildren {settings : Settings} {children children' : Slot (List Node)}
    {records : List Change} (h : escapeChildren settings children = .ok (children', records)) :
    children'.size = children.size ∧ ∀ i, Option.Rel
      (fun node node' => ∃ own, escape settings (i == 0) node = .ok (node', own))
      (children.toOption.getD [])[i]? (children'.toOption.getD [])[i]? := by
  cases children with
  | absent | null =>
    rw [escapeChildren] at h
    cases h
    exact ⟨rfl, fun i => .none⟩
  | filled nodes =>
    rw [escapeChildren] at h
    rcases bind_eq_ok_iff.1 h with ⟨⟨nodes', own⟩, hnodes, h⟩
    cases h
    rcases rel_of_escapeNodes hnodes with ⟨hlength, hrel⟩
    exact ⟨congrArg Slot.filled hlength, hrel⟩

/-! ## One place -/

/-- What escaping makes of the node at a place: all stays but its value, and the value of a
text-bearing node that is not shielded is the text before, escaped for the place. -/
structure Rewritten (settings : Settings) (shielded : Prop) (first : Bool) (before after : Node) :
    Prop where
  type : after.type = before.type
  children : after.children.size = before.children.size
  extras : after.extras = before.extras
  escaped : before.type ∈ settings.textTypes → ¬ shielded → ∃ s, before.value = some (.string s) ∧
    after.value = some (.string (escapeText first s))
  kept : ¬ (before.type ∈ settings.textTypes ∧ ¬ shielded) → after.value = before.value

theorem Rewritten.refl {settings : Settings} {shielded : Prop} {first : Bool} (h : shielded)
    (node : Node) : Rewritten settings shielded first node node where
  type := rfl
  children := rfl
  extras := rfl
  escaped := fun _ hnot => absurd h hnot
  kept := fun _ => rfl

/-- What escaping makes of a node that is no passthrough node, and of its children. -/
theorem rewritten_of_escape {settings : Settings} {first : Bool} {node result : Node}
    {records : List Change} (h : node.escape settings first = .ok (result, records))
    (hpass : node.type ∉ settings.passthroughTypes) :
    Rewritten settings False first node result ∧ ∀ i, Option.Rel
      (fun child child' => ∃ own, escape settings (i == 0) child = .ok (child', own))
      node.childList[i]? result.childList[i]? := by
  rw [escape_eq, if_neg hpass] at h
  cases hchildren : escapeChildren settings node.children with
  | error e => simp [hchildren] at h
  | ok done =>
    rcases rel_of_escapeChildren hchildren with ⟨hsize, hrel⟩
    by_cases htext : node.type ∈ settings.textTypes
    · cases hvalue : escapeValue settings first node.type (node.value.getD .null) with
      | error e => simp [hchildren, htext, hvalue] at h
      | ok own =>
        simp only [hchildren, htext, if_true, hvalue, Except.ok.injEq, Prod.mk.injEq] at h
        rcases h with ⟨rfl, -⟩
        refine ⟨⟨rfl, hsize, rfl, fun _ _ => ?_, fun hkept => absurd ⟨htext, id⟩ hkept⟩, hrel⟩
        rcases escapeValue_eq_ok_iff.1 hvalue with ⟨s, hs, -, hescaped, -⟩
        -- A value that was not given would count as null.
        cases hgiven : node.value with
        | none => simp [hgiven] at hs
        | some value =>
          rw [hgiven, Option.getD_some] at hs
          exact ⟨s, congrArg some hs, by rw [hescaped]⟩
    · simp only [hchildren, htext, if_false, Except.ok.injEq, Prod.mk.injEq] at h
      rcases h with ⟨rfl, -⟩
      exact ⟨⟨rfl, hsize, rfl, fun hin => absurd hin htext, fun _ => rfl⟩, hrel⟩

/-- Nodes whose children are related in pairs are related below these children. -/
theorem rel_at?_cons {R S : Node → Node → Prop} {node node' : Node} {i : Nat} {path : List Nat}
    (hrel : Option.Rel S node.childList[i]? node'.childList[i]?)
    (h : ∀ child child', node.childList[i]? = some child → S child child' →
      Option.Rel R (child.at? path) (child'.at? path)) :
    Option.Rel R (node.at? (i :: path)) (node'.at? (i :: path)) := by
  rw [at?, at?]
  generalize node.childList[i]? = c at hrel h
  generalize node'.childList[i]? = c' at hrel
  cases hrel with
  | none => exact .none
  | some hS => exact h _ _ rfl hS

/-- The tree that escaping returns has the places of the tree it was given, and at each of them
stands the node that stood there, with its value escaped if it is a text-bearing node that no
passthrough node shields. -/
theorem escape_rewrites {settings : Settings} {first : Bool} {node result : Node}
    {records : List Change} (h : node.escape settings first = .ok (result, records))
    (path : List Nat) :
    Option.Rel (Rewritten settings (settings.Shields node.survey path) (comesFirst first path))
      (node.at? path) (result.at? path) := by
  induction path generalizing first node result records with
  | nil =>
    by_cases hpass : node.type ∈ settings.passthroughTypes
    · rw [escape_eq, if_pos hpass] at h
      cases h
      exact .some (.refl (shields_of_mem hpass []) node)
    · have hshield : settings.Shields node.survey [] ↔ False := by
        rw [shields_nil]
        exact iff_false_intro hpass
      rw [propext hshield]
      exact .some (rewritten_of_escape h hpass).1
  | cons i path ih =>
    by_cases hpass : node.type ∈ settings.passthroughTypes
    · rw [escape_eq, if_pos hpass] at h
      cases h
      cases node.at? (i :: path) with
      | none => exact .none
      | some found => exact .some (.refl (shields_of_mem hpass (i :: path)) found)
    · refine rel_at?_cons ((rewritten_of_escape h hpass).2 i) ?_
      -- The place is shielded just if it is shielded from the child on, and so the child's tree
      -- tells all there is to know.
      intro child child' hchild hown
      rcases hown with ⟨own, hown⟩
      have hshield : settings.Shields node.survey (i :: path) ↔
          settings.Shields child.survey path := by
        rw [shields_cons, hchild]
        simp [hpass]
      rw [comesFirst_cons, propext hshield]
      exact ih hown

/-- A tree with two texts, the second one shielded. -/
theorem escape_rewrites_first_text :
    let settings : Settings := { Settings.default with passthroughTypes := ["code"] }
    let text (s : String) : Node := ⟨"text", some (.string s), .absent, []⟩
    let tree (first : String) : Node :=
      ⟨"root", none, .filled [text first, ⟨"code", none, .filled [text "*b*"], []⟩], []⟩
    (tree "# *a*").escape settings false =
      .ok (tree "\\# \\*a\\*", [⟨"text", "# *a*", "\\# \\*a\\*"⟩]) ∧
    Option.Rel (Rewritten settings (settings.Shields (tree "# *a*").survey [0]) true)
      ((tree "# *a*").at? [0]) ((tree "\\# \\*a\\*").at? [0]) := by
  intro settings text tree
  have h : (tree "# *a*").escape settings false =
      .ok (tree "\\# \\*a\\*", [⟨"text", "# *a*", "\\# \\*a\\*"⟩]) := by rfl
  exact ⟨h, escape_rewrites h [0]⟩

end Node

end LiteralMarkdown
