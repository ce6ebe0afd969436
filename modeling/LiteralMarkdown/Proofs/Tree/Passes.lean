import LiteralMarkdown.Proofs.Tree.Tidy

/-!
# Escaping in passes

The types of text-bearing nodes can be escaped in passes. A run for some types leaves the values of
all others as they are, so that a later run finds them as they were given; it adds no faults and
hides none. Two runs for types without a common one therefore succeed just if the run for all of
them does, with the same tree, in either order. The main statement is `escape_in_turn`.
-/

namespace LiteralMarkdown

/-- The run succeeds with this result, whatever it reports. -/
def Returns {ε α β : Type} (run : Except ε (α × β)) (result : α) : Prop :=
  ∃ report, run = .ok (result, report)

/-- A run for all types returns just what a run for the first of them and then, on its result, a run
for the others returns. -/
def InTurn {ε α β : Type} (run : List String → α → Except ε (α × β))
    (all firsts others : List String) (a : α) : Prop :=
  ∀ result, Returns (run all a) result ↔
    ∃ middle, Returns (run firsts a) middle ∧ Returns (run others middle) result

/-- The settings with these as the types of text-bearing nodes. -/
def Settings.forTexts (settings : Settings) (types : List String) : Settings :=
  { settings with textTypes := types }

@[simp] theorem Settings.forTexts_textTypes (settings : Settings) (types : List String) :
    (settings.forTexts types).textTypes = types := rfl

@[simp] theorem Settings.forTexts_passthroughTypes (settings : Settings) (types : List String) :
    (settings.forTexts types).passthroughTypes = settings.passthroughTypes := rfl

/-- How a value is escaped is no matter of the types. -/
@[simp] theorem escapeValue_forTexts (settings : Settings) (types : List String) :
    escapeValue (settings.forTexts types) = escapeValue settings := rfl

/-- All types are those of two lists that have none in common. -/
structure Parted (all firsts others : List String) : Prop where
  mem_iff : ∀ type, type ∈ all ↔ type ∈ firsts ∨ type ∈ others
  disjoint : ∀ type ∈ firsts, type ∉ others

theorem parted_append {firsts others : List String} (h : ∀ type ∈ firsts, type ∉ others) :
    Parted (firsts ++ others) firsts others where
  mem_iff := fun _ => List.mem_append
  disjoint := h

theorem Parted.symm {all firsts others : List String} (h : Parted all firsts others) :
    Parted all others firsts where
  mem_iff := fun type => (h.mem_iff type).trans or_comm
  disjoint := fun type hothers hfirsts => h.disjoint type hfirsts hothers

/-! ## One level -/

/-- What becomes of the value of a node by itself. -/
def BecomesOwn (settings : Settings) (first : Bool) (type : String) (value value' : Option Json) :
    Prop :=
  if type ∈ settings.textTypes then
    ∃ s, Returns (escapeValue settings first type (value.getD .null)) s ∧ value' = some (.string s)
  else value' = value

namespace Node

theorem returns_escape_iff {settings : Settings} {first : Bool} {node result : Node} :
    Returns (node.escape settings first) result ↔
      if node.type ∈ settings.passthroughTypes then result = node
      else ∃ children value, Returns (escapeChildren settings node.children) children ∧
        BecomesOwn settings first node.type node.value value ∧
        result = ⟨node.type, value, children, node.extras⟩ := by
  unfold Returns BecomesOwn
  rw [escape_eq]
  by_cases hpass : node.type ∈ settings.passthroughTypes
  · simp [hpass, eq_comm]
  · rw [if_neg hpass, if_neg hpass]
    cases escapeChildren settings node.children with
    | error e => simp
    | ok done =>
      by_cases htext : node.type ∈ settings.textTypes
      · cases hvalue : escapeValue settings first node.type (node.value.getD .null) with
        | error e => simp [htext, Returns]
        | ok own =>
          rcases done with ⟨children, below⟩
          rcases own with ⟨escaped, own⟩
          simp [htext, Returns, eq_comm]
      · rcases done with ⟨children, below⟩
        simp [htext, eq_comm]

theorem returns_escapeChildren_filled_iff {settings : Settings} {nodes : List Node}
    {result : Slot (List Node)} :
    Returns (escapeChildren settings (.filled nodes)) result ↔
      ∃ nodes', Returns (escapeNodes settings true nodes) nodes' ∧ result = .filled nodes' := by
  unfold Returns
  rw [escapeChildren]
  constructor
  · rintro ⟨records, h⟩
    rcases bind_eq_ok_iff.1 h with ⟨⟨nodes', records'⟩, hnodes, h⟩
    cases h
    exact ⟨nodes', ⟨records, hnodes⟩, rfl⟩
  · rintro ⟨nodes', ⟨records, hnodes⟩, rfl⟩
    exact ⟨records, by rw [hnodes]; rfl⟩

theorem returns_escapeNodes_cons_iff {settings : Settings} {first : Bool} {node : Node}
    {nodes result : List Node} :
    Returns (escapeNodes settings first (node :: nodes)) result ↔
      ∃ node' nodes', Returns (node.escape settings first) node' ∧
        Returns (escapeNodes settings false nodes) nodes' ∧ result = node' :: nodes' := by
  unfold Returns
  rw [escapeNodes]
  constructor
  · rintro ⟨records, h⟩
    rcases bind_eq_ok_iff.1 h with ⟨⟨node', own⟩, hnode, h⟩
    rcases bind_eq_ok_iff.1 h with ⟨⟨nodes', more⟩, hnodes, h⟩
    cases h
    exact ⟨node', nodes', ⟨own, hnode⟩, ⟨more, hnodes⟩, rfl⟩
  · rintro ⟨node', nodes', ⟨own, hnode⟩, ⟨more, hnodes⟩, rfl⟩
    exact ⟨own ++ more, by rw [hnode, hnodes]; rfl⟩

end Node

/-! ## Two passes -/

section Passes

variable {settings : Settings} {all firsts others : List String}

/-- The value of a node is changed in one of two passes at most. -/
theorem Parted.becomesOwn_iff (h : Parted all firsts others) {first : Bool} {type : String}
    {value result : Option Json} :
    BecomesOwn (settings.forTexts all) first type value result ↔
      ∃ middle, BecomesOwn (settings.forTexts firsts) first type value middle ∧
        BecomesOwn (settings.forTexts others) first type middle result := by
  have hall := h.mem_iff type
  unfold BecomesOwn
  simp only [escapeValue_forTexts, Settings.forTexts_textTypes]
  by_cases hfirsts : type ∈ firsts
  · have hothers := h.disjoint type hfirsts
    simp [hall, hfirsts, hothers]
  · by_cases hothers : type ∈ others
    · simp [hall, hfirsts, hothers]
    · simp [hall, hfirsts, hothers]

namespace Node

mutual

theorem inTurn_escape (h : Parted all firsts others) (first : Bool) : (node : Node) →
    InTurn (fun types node => node.escape (settings.forTexts types) first) all firsts others node
  | ⟨type, value, children, extras⟩ => by
    have hchildren := inTurn_escapeChildren h children
    intro result
    simp only [returns_escape_iff, Settings.forTexts_passthroughTypes]
    by_cases hpass : type ∈ settings.passthroughTypes
    · -- A passthrough node stays as it is in every run.
      simp [hpass]
    · simp only [hpass, if_false]
      constructor
      · rintro ⟨children', value', hbelow, hown, rfl⟩
        rcases (hchildren children').1 hbelow with ⟨between, hfirst, hsecond⟩
        rcases h.becomesOwn_iff.1 hown with ⟨middle, hfirst', hsecond'⟩
        refine ⟨⟨type, middle, between, extras⟩, ⟨between, middle, hfirst, hfirst', rfl⟩, ?_⟩
        simp only [hpass, if_false]
        exact ⟨children', value', hsecond, hsecond', rfl⟩
      · rintro ⟨-, ⟨between, middle, hfirst, hfirst', rfl⟩, hrest⟩
        simp only [hpass, if_false] at hrest
        rcases hrest with ⟨children', value', hsecond, hsecond', rfl⟩
        exact ⟨children', value', (hchildren children').2 ⟨between, hfirst, hsecond⟩,
          h.becomesOwn_iff.2 ⟨middle, hfirst', hsecond'⟩, rfl⟩

theorem inTurn_escapeChildren (h : Parted all firsts others) : (children : Slot (List Node)) →
    InTurn (fun types => escapeChildren (settings.forTexts types)) all firsts others children
  | .absent => by
    intro result
    simp [Returns, escapeChildren]
  | .null => by
    intro result
    simp [Returns, escapeChildren]
  | .filled nodes => by
    have hnodes := inTurn_escapeNodes h true nodes
    intro result
    simp only [returns_escapeChildren_filled_iff]
    constructor
    · rintro ⟨nodes', hrun, rfl⟩
      rcases (hnodes nodes').1 hrun with ⟨between, hfirst, hsecond⟩
      refine ⟨.filled between, ⟨between, hfirst, rfl⟩, ?_⟩
      exact returns_escapeChildren_filled_iff.2 ⟨nodes', hsecond, rfl⟩
    · rintro ⟨-, ⟨between, hfirst, rfl⟩, hrest⟩
      rcases returns_escapeChildren_filled_iff.1 hrest with ⟨nodes', hsecond, rfl⟩
      exact ⟨nodes', (hnodes nodes').2 ⟨between, hfirst, hsecond⟩, rfl⟩

theorem inTurn_escapeNodes (h : Parted all firsts others) (first : Bool) : (nodes : List Node) →
    InTurn (fun types => escapeNodes (settings.forTexts types) first) all firsts others nodes
  | [] => by
    intro result
    simp [Returns, escapeNodes]
  | node :: nodes => by
    have hnode := inTurn_escape h first node
    have hnodes := inTurn_escapeNodes h false nodes
    intro result
    simp only [returns_escapeNodes_cons_iff]
    constructor
    · rintro ⟨node', nodes', hrun, hruns, rfl⟩
      rcases (hnode node').1 hrun with ⟨between, hfirst, hsecond⟩
      rcases (hnodes nodes').1 hruns with ⟨betweens, hfirsts, hseconds⟩
      refine ⟨between :: betweens, ⟨between, betweens, hfirst, hfirsts, rfl⟩, ?_⟩
      exact returns_escapeNodes_cons_iff.2 ⟨node', nodes', hsecond, hseconds, rfl⟩
    · rintro ⟨-, ⟨between, betweens, hfirst, hfirsts, rfl⟩, hrest⟩
      rcases returns_escapeNodes_cons_iff.1 hrest with ⟨node', nodes', hsecond, hseconds, rfl⟩
      exact ⟨node', nodes', (hnode node').2 ⟨between, hfirst, hsecond⟩,
        (hnodes nodes').2 ⟨betweens, hfirsts, hseconds⟩, rfl⟩

end

end Node

/-! ## Trees -/

theorem returns_escapeTree_iff {tree result : Json} :
    Returns (escapeTree settings tree) result ↔ ∃ root escaped, Node.ofTree tree = .ok root ∧
      Returns (root.escape settings false) escaped ∧ result = escaped.toJson := by
  constructor
  · rintro ⟨report, h⟩
    rcases bind_eq_ok_iff.1 h with ⟨root, hroot, h⟩
    rcases bind_eq_ok_iff.1 h with ⟨⟨escaped, records⟩, hescape, h⟩
    cases h
    exact ⟨root, escaped, hroot, ⟨records, hescape⟩, rfl⟩
  · rintro ⟨root, escaped, hroot, ⟨records, hescape⟩, rfl⟩
    refine ⟨.entered root.type :: records.map .changed, ?_⟩
    rw [Node.escapeTree_of_ofTree hroot, hescape]
    rfl

theorem Node.Fits.of_returns {levels : Nat} {first : Bool} {node result : Node}
    (hfits : node.Fits levels) (h : Returns (node.escape settings first) result) :
    result.Fits levels := by
  rcases h with ⟨records, h⟩
  exact hfits.of_escape h

/-- A run over what is written of a node is a run over the node. -/
theorem Node.Fits.returns_escapeTree_iff {node : Node} (h : node.Fits Node.levels) {result : Json} :
    Returns (escapeTree settings node.toJson) result ↔
      ∃ escaped, Returns (node.escape settings false) escaped ∧ result = escaped.toJson := by
  unfold Returns
  rw [h.escapeTree_toJson]
  cases node.escape settings false with
  | error e => simp [Except.map]
  | ok done =>
    rcases done with ⟨escaped, records⟩
    simp [Except.map, eq_comm]

theorem inTurn_escapeTree (h : Parted all firsts others) (tree : Json) :
    InTurn (fun types => escapeTree (settings.forTexts types)) all firsts others tree := by
  intro result
  constructor
  · intro hrun
    rcases returns_escapeTree_iff.1 hrun with ⟨root, escaped, hroot, hescape, rfl⟩
    rcases (Node.inTurn_escape h false root escaped).1 hescape with ⟨middle, hmiddle, hescaped⟩
    have hfits := (Node.fits_of_ofTree hroot).of_returns hmiddle
    exact ⟨middle.toJson, returns_escapeTree_iff.2 ⟨root, middle, hroot, hmiddle, rfl⟩,
      hfits.returns_escapeTree_iff.2 ⟨escaped, hescaped, rfl⟩⟩
  · rintro ⟨written, hfirst, hsecond⟩
    rcases returns_escapeTree_iff.1 hfirst with ⟨root, middle, hroot, hmiddle, rfl⟩
    have hfits := (Node.fits_of_ofTree hroot).of_returns hmiddle
    rcases hfits.returns_escapeTree_iff.1 hsecond with ⟨escaped, hescaped, rfl⟩
    have hall := (Node.inTurn_escape h false root escaped).2 ⟨middle, hmiddle, hescaped⟩
    exact returns_escapeTree_iff.2 ⟨root, escaped, hroot, hall, rfl⟩

end Passes

/-- A run for the types of two lists that have none in common, over a tree or over a node, returns
just what two runs return, one for each list and the second one on the result of the first, in
either order. -/
theorem escape_in_turn (settings : Settings) {ones others : List String}
    (h : ∀ type ∈ ones, type ∉ others) (tree : Json) (first : Bool) (node : Node) :
    let overTree (types : List String) := escapeTree (settings.forTexts types)
    let overNode (types : List String) := Node.escape (settings.forTexts types) first
    (InTurn overTree (ones ++ others) ones others tree ∧
      InTurn overTree (ones ++ others) others ones tree) ∧
    (InTurn overNode (ones ++ others) ones others node ∧
      InTurn overNode (ones ++ others) others ones node) := by
  intro overTree overNode
  have hparted := parted_append h
  constructor
  · exact ⟨inTurn_escapeTree hparted tree, inTurn_escapeTree hparted.symm tree⟩
  · exact ⟨Node.inTurn_escape hparted first node, Node.inTurn_escape hparted.symm first node⟩

/-- A text node below a node of another text type, each escaped in a pass of its own. -/
theorem escape_in_turn_nested :
    let text (value : String) : Json := .object [("type", .string "text"), ("value", .string value)]
    let tree (outer inner : String) : Json := .object [("type", .string "html"),
      ("value", .string outer), ("children", .list [text inner])]
    let run (types : List String) (tree : Json) := escapeTree (Settings.default.forTexts types) tree
    (∀ type ∈ ["text"], type ∉ ["html"]) ∧
      Returns (run ["text", "html"] (tree "*a*" "# b")) (tree "\\*a\\*" "\\# b") ∧
      ∃ middle, Returns (run ["html"] (tree "*a*" "# b")) middle ∧
        Returns (run ["text"] middle) (tree "\\*a\\*" "\\# b") := by
  intro text tree run
  have hparted : ∀ type ∈ ["text"], type ∉ ["html"] := by decide
  have hrun : Returns (run ["text", "html"] (tree "*a*" "# b")) (tree "\\*a\\*" "\\# b") :=
    ⟨_, rfl⟩
  have hturn := escape_in_turn .default hparted (tree "*a*" "# b") false ⟨"text", none, .null, []⟩
  exact ⟨hparted, hrun, (hturn.1.2 _).1 hrun⟩

end LiteralMarkdown
