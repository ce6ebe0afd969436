import LiteralMarkdown.Proofs.Tree.Outcome

/-!
# The node that an error names

A tree is refused because of some node in it, and the error names a type. Where a value is refused
that is the type of the node with this value. Where the tree breaks the schema it is the type that
the root gives, wherever the tree breaks it: an error may name a root with which nothing is wrong.
The main statement is `nodeType?_of_escapeTree`.
-/

namespace LiteralMarkdown

/-- What a value gives as its type, null if it gives nothing. -/
def Json.givenType (node : Json) : Json := (node.field? "type").getD .null

/-- The type of the node that an error names, if it is about a malformed node. -/
def TreeError.nodeType? : TreeError → Option Json
  | .notObject _ => some .null
  | .malformed type _ => some type
  | .valueNotText type _ => some (.string type)
  | .valueTooLong _ _ => none

/-- At the place stands a malformed node: one that breaks the schema by itself, that lies too deep,
or that bears a text, is not shielded and has a value that is no text. -/
inductive Settings.Malformed (settings : Settings) (tree : Json) (path : List Nat) : Prop where
  | notNode {node : Json} (hnode : tree.at? path = some node) (h : ¬ node.IsNode) :
      Malformed settings tree path
  | tooDeep {node : Json} (hnode : tree.at? path = some node) (h : Node.levels ≤ path.length) :
      Malformed settings tree path
  | notText {type : String} {value : Json} (hfound : tree.survey path = some (type, value))
      (htext : type ∈ settings.textTypes) (hshield : ¬ settings.Shields tree.survey path)
      (h : ∀ s, value ≠ .string s) : Malformed settings tree path

/-- The type is the one that a malformed node gives. -/
def Settings.NamesMalformed (settings : Settings) (tree type : Json) : Prop :=
  ∃ path node, tree.at? path = some node ∧ settings.Malformed tree path ∧ type = node.givenType

variable {settings : Settings} {tree : Json} {path : List Nat} {e : TreeError} {type : Json}

/-- The node at a place gives the type that is found there. -/
theorem exists_of_survey_eq_some {type : String} {value : Json}
    (h : tree.survey path = some (type, value)) :
    ∃ node, tree.at? path = some node ∧ node.givenType = .string type := by
  unfold Json.survey at h
  obtain ⟨node, hnode, hfound⟩ := Option.bind_eq_some_iff.1 h
  refine ⟨node, hnode, ?_⟩
  unfold Json.givenType
  split at hfound
  · rename_i htype
    cases hfound
    rw [htype, Option.getD_some]
  · cases hfound

/-- An error about a refused value names the malformed node that has the value. -/
theorem namesMalformed_of_refusesAt (h : settings.RefusesAt tree.survey path e)
    (htype : e.nodeType? = some type) : settings.NamesMalformed tree type := by
  obtain ⟨found, value, hfound, htext, hshield, hrefuses⟩ := h
  obtain ⟨node, hnode, hgiven⟩ := exists_of_survey_eq_some hfound
  obtain ⟨hnot, rfl⟩ | ⟨s, limit, -, -, -, rfl⟩ := hrefuses
  · refine ⟨path, node, hnode, .notText hfound htext hshield hnot, ?_⟩
    rw [hgiven]
    exact (Option.some.inj htype).symm
  · cases htype

/-- An error about an object names the root where the tree breaks the schema, and else the malformed
node of the first value that is refused. So it names a malformed node unless the root is none and
the tree breaks the schema below it. -/
theorem nodeType?_of_escapeTree (hobject : ∃ fields, tree = .object fields)
    (h : escapeTree settings tree = .error e) (htype : e.nodeType? = some type) :
    ((∃ path, tree.BreaksAt Node.levels path) → type = tree.givenType) ∧
    ((∀ path, ¬ tree.BreaksAt Node.levels path) →
      ∃ path, settings.FirstRefusal tree.survey path e) ∧
    (¬ (tree.IsNode ∧ ∃ path, tree.BreaksAt Node.levels path) →
      settings.NamesMalformed tree type) := by
  obtain ⟨hnot, -⟩ | ⟨-, houtcome⟩ := escapeTree_outcome settings tree
  · obtain ⟨fields, hfields⟩ := hobject
    exact absurd hfields (hnot fields)
  · obtain ⟨hbreaks, faults, herror⟩ | ⟨hvalid, hvalues⟩ := houtcome
    · rw [h] at herror
      cases herror
      have hroot : type = tree.givenType := (Option.some.inj htype).symm
      refine ⟨fun _ => hroot, fun hnone => absurd hbreaks (not_exists.2 hnone), ?_⟩
      intro hbelow
      -- The tree breaks the schema, so if no other node may be to blame it is the root.
      have hnot : ¬ tree.IsNode := fun hnode => hbelow ⟨hnode, hbreaks⟩
      exact ⟨[], tree, rfl, .notNode rfl hnot, hroot⟩
    · obtain ⟨path, e', hfirst, herror⟩ | ⟨-, result, hresult⟩ := hvalues
      · rw [h] at herror
        cases herror
        refine ⟨fun hbreaks => absurd hbreaks (not_exists.2 hvalid), fun _ => ⟨path, hfirst⟩, ?_⟩
        intro _
        exact namesMalformed_of_refusesAt hfirst.1 htype
      · rw [h] at hresult
        cases hresult

/-- The second of two texts has no value. -/
theorem nodeType?_of_escapeTree_textless :
    let tree : Json := .object [("type", .string "root"), ("children", .list [
      .object [("type", .string "text"), ("value", .string "*a*")],
      .object [("type", .string "text")]])]
    escapeTree .default tree = .error (.valueNotText "text" .null) ∧
      Settings.NamesMalformed .default tree (.string "text") := by
  intro tree
  have h : escapeTree .default tree = .error (.valueNotText "text" .null) := by rfl
  have htype : (TreeError.valueNotText "text" .null).nodeType? = some (.string "text") := by rfl
  obtain ⟨hroot, -, hnames⟩ := nodeType?_of_escapeTree ⟨_, rfl⟩ h htype
  refine ⟨h, hnames ?_⟩
  -- Were the schema broken, the error would name the root.
  rintro ⟨-, hbreaks⟩
  have heq : Json.string "text" = .string "root" := hroot hbreaks
  simp at heq

/-- An error may name the root where the malformed node is another one, of another type. -/
theorem exists_root_named :
    let tree : Json := .object [("type", .string "root"), ("children", .list [
      .object [("type", .int 1)]])]
    ∃ e type, escapeTree .default tree = .error e ∧ e.nodeType? = some type ∧
      ¬ Settings.NamesMalformed .default tree type := by
  intro tree
  have h : ∃ faults, escapeTree .default tree = .error (.malformed (.string "root") faults) :=
    ⟨_, rfl⟩
  obtain ⟨faults, h⟩ := h
  refine ⟨_, .string "root", h, rfl, ?_⟩
  rintro ⟨path, node, hnode, hmalformed, htype⟩
  match path with
  | [] =>
    have hroot : tree.IsNode := ⟨⟨"root", rfl⟩, .inr (.inr ⟨_, rfl⟩)⟩
    cases hmalformed with
    | notNode hfound hnot =>
      cases hfound
      exact hnot hroot
    | tooDeep _ hdeep => exact absurd hdeep (by decide)
    | notText hfound htext =>
      cases hfound
      exact absurd htext (by decide)
  | [0] =>
    -- The malformed node gives another type.
    cases hnode
    have heq : Json.string "root" = .int 1 := htype
    cases heq
  | 0 :: i :: path => cases hnode
  | (i + 1) :: path => cases hnode

end LiteralMarkdown
