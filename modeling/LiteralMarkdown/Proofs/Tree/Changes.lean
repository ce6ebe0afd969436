import LiteralMarkdown.Proofs.Tree.Differences
import LiteralMarkdown.Proofs.Tree.RoundTrip
import LiteralMarkdown.Proofs.Tree.Sameness
import LiteralMarkdown.Tree.Report

/-!
# What a run reports

The changes that a run over a tree reports are the difference between the tree that it is given and
the tree that it returns. Text-bearing nodes whose text stays are not reported, nor are nodes that a
passthrough node shields. As nothing else about a node can change, a run returns what it was given
just if it reports no change.

* `Node.isLogged`: of every run over a node, by induction on its children;
* `reportOf_eq`: what has been reported when a run succeeds is the report that it returns;
* `escape_tells`: all of it for nodes and for trees.
-/

namespace LiteralMarkdown

/-! ## Nodes -/

namespace Node

/-- What lies below nodes that follow one another, the index of one of them first. -/
def surveyOf : List Node → Survey
  | [] => fun _ => none
  | node :: nodes => node.survey.beside (surveyOf nodes)

theorem surveyOf_nil (nodes : List Node) : surveyOf nodes [] = none := by
  cases nodes with
  | nil => rfl
  | cons node nodes => exact Survey.beside_nil _ _

theorem surveyOf_cons (nodes : List Node) (i : Nat) (path : List Nat) :
    surveyOf nodes (i :: path) = (nodes[i]?).bind fun node => node.survey path := by
  induction nodes generalizing i with
  | nil => rfl
  | cons node nodes ih =>
    cases i with
    | zero => rfl
    | succ i => rw [surveyOf, Survey.beside_succ, ih, List.getElem?_cons_succ]

theorem below_survey (node : Node) : node.survey.below = surveyOf node.childList := by
  funext path
  cases path with
  | nil => rw [Survey.below, surveyOf_nil]
  | cons i path => rw [Survey.below, survey_cons, surveyOf_cons]

/-- The changes are what a run reports that comes to these visits, is given this and returns that:
they are the difference of the two, without changes all is kept, and the visits give these changes
before all that come later. -/
structure Logged {α : Type} (settings : Settings) (survey : α → Survey) (visits : List Visit)
    (given result : α) (changes : List Change) : Prop where
  told : IsDifference (survey given) (survey result) changes
  kept : changes = [] → result = given
  visited : ∀ later, changesAt settings (visits ++ later) = changes ++ changesAt settings later

theorem Logged.refl {α : Type} (settings : Settings) (survey : α → Survey) (a : α) :
    Logged settings survey [] a a [] where
  told := ⟨[], .refl _⟩
  kept := fun _ => rfl
  visited := fun _ => rfl

/-- Every run over the node reports what it should. -/
def IsLogged (settings : Settings) (node : Node) : Prop :=
  ∀ first result changes, node.escape settings first = .ok (result, changes) →
    Logged settings survey (node.visits settings first) node result changes

/-- Nodes that follow one another report one after the other. -/
theorem logged_of_escapeNodes {settings : Settings} {first : Bool} {nodes nodes' : List Node}
    {changes : List Change} (hlogged : ∀ node ∈ nodes, IsLogged settings node)
    (h : escapeNodes settings first nodes = .ok (nodes', changes)) :
    Logged settings surveyOf (visitsOf settings first nodes) nodes nodes' changes := by
  induction nodes generalizing first nodes' changes with
  | nil =>
    rw [escapeNodes] at h
    cases h
    exact .refl settings surveyOf []
  | cons node nodes ih =>
    rw [escapeNodes] at h
    obtain ⟨⟨node', own⟩, hnode, h⟩ := bind_eq_ok_iff.1 h
    obtain ⟨⟨rest, more⟩, hrest, h⟩ := bind_eq_ok_iff.1 h
    cases h
    have hhead := hlogged node List.mem_cons_self first node' own hnode
    have htail := ih (fun other hother => hlogged other (List.mem_cons_of_mem node hother)) hrest
    obtain ⟨places, htold⟩ := hhead.told
    obtain ⟨others, htold'⟩ := htail.told
    constructor
    · exact ⟨_, htold.beside htold' (surveyOf_nil nodes) (surveyOf_nil rest)⟩
    · intro hnil
      obtain ⟨hown, hmore⟩ := List.append_eq_nil_iff.1 hnil
      rw [hhead.kept hown, htail.kept hmore]
    · intro later
      rw [visitsOf, List.append_assoc, hhead.visited, htail.visited, List.append_assoc]

theorem logged_of_escapeChildren {settings : Settings} {node : Node}
    {children : Slot (List Node)} {changes : List Change}
    (hlogged : ∀ child ∈ node.childList, IsLogged settings child)
    (h : escapeChildren settings node.children = .ok (children, changes)) :
    Logged settings (fun slot => surveyOf (slot.toOption.getD []))
      (childVisits settings node.children) node.children children changes := by
  rcases node with ⟨type, value, slot, extras⟩
  cases slot with
  | absent | null =>
    rw [escapeChildren] at h
    cases h
    exact .refl settings _ _
  | filled nodes =>
    rw [escapeChildren] at h
    obtain ⟨⟨nodes', own⟩, hnodes, h⟩ := bind_eq_ok_iff.1 h
    cases h
    have hall := logged_of_escapeNodes hlogged hnodes
    exact ⟨hall.told, fun hnil => congrArg Slot.filled (hall.kept hnil), hall.visited⟩

theorem visits_eq (settings : Settings) (first : Bool) (node : Node) :
    node.visits settings first =
      if node.type ∈ settings.passthroughTypes then []
      else childVisits settings node.children ++
        if node.type ∈ settings.textTypes then [⟨first, node.type, node.value.getD .null⟩]
        else [] := by
  rcases node with ⟨type, value, children, extras⟩
  rw [visits]

theorem mk_parts (node : Node) :
    (⟨node.type, node.value, node.children, node.extras⟩ : Node) = node := by
  rcases node with ⟨type, value, children, extras⟩
  rfl

section Level

variable {settings : Settings} {first : Bool} {node : Node} {children : Slot (List Node)}
  {changes : List Change}
  (hpass : node.type ∉ settings.passthroughTypes)
  (hbelow : Logged settings (fun slot => surveyOf (slot.toOption.getD []))
    (childVisits settings node.children) node.children children changes)
include hbelow

/-- The changes among the children of a node are those below it. -/
theorem isDifference_below (value : Option Json) :
    IsDifference node.survey.below (survey ⟨node.type, value, children, node.extras⟩).below
      changes := by
  obtain ⟨places, htold⟩ := hbelow.told
  refine ⟨places, ?_⟩
  rw [below_survey, below_survey]
  exact htold

include hpass

/-- A node that bears no text adds nothing to what its children report. -/
theorem logged_of_not_mem (htext : node.type ∉ settings.textTypes) :
    Logged settings survey (node.visits settings first) node
      ⟨node.type, node.value, children, node.extras⟩ changes := by
  obtain ⟨places, htold⟩ := isDifference_below hbelow node.value
  constructor
  · exact ⟨places, htold.of_below rfl⟩
  · intro hnil
    rw [hbelow.kept hnil, mk_parts]
  · intro later
    rw [visits_eq, if_neg hpass, if_neg htext, List.append_nil, hbelow.visited]

/-- A text-bearing node is visited after its children, and its own change comes last. -/
theorem logged_of_mem {escaped : String} {own : List Change}
    (htext : node.type ∈ settings.textTypes)
    (hvalue : escapeValue settings first node.type (node.value.getD .null) = .ok (escaped, own)) :
    Logged settings survey (node.visits settings first) node
      ⟨node.type, some (.string escaped), children, node.extras⟩ (changes ++ own) := by
  obtain ⟨s, hs, -, -, hown⟩ := escapeValue_eq_ok_iff.1 hvalue
  obtain ⟨places, htold⟩ := isDifference_below hbelow (some (.string escaped))
  constructor
  · rw [hown]
    apply htold.isDifference_of_below
    · rw [survey_nil, hs]
    · exact survey_nil _
  · intro hnil
    obtain ⟨hchanges, hnone⟩ := List.append_eq_nil_iff.1 hnil
    have hsame : escaped = s := by
      by_contra hne
      simp [hown, hne] at hnone
    -- The value was given, since one that was not would count as null.
    have hgiven : node.value = some (.string s) := by
      cases hslot : node.value with
      | none => simp [hslot] at hs
      | some value => simpa [hslot] using hs
    rw [hbelow.kept hchanges, hsame, ← hgiven, mk_parts]
  · intro later
    rw [visits_eq, if_neg hpass, if_pos htext, List.append_assoc, hbelow.visited,
      List.singleton_append, changesAt, hvalue, List.append_assoc]

end Level

theorem isLogged (settings : Settings) (node : Node) : IsLogged settings node := by
  induction node using induction_on_children with
  | step node ih =>
    intro first result changes h
    rw [escape_eq] at h
    by_cases hpass : node.type ∈ settings.passthroughTypes
    · rw [if_pos hpass] at h
      cases h
      rw [visits_eq, if_pos hpass]
      exact .refl settings survey node
    · rw [if_neg hpass] at h
      cases hchildren : escapeChildren settings node.children with
      | error e => simp [hchildren] at h
      | ok done =>
        have hbelow := logged_of_escapeChildren ih hchildren
        rw [hchildren] at h
        by_cases htext : node.type ∈ settings.textTypes
        · cases hvalue : escapeValue settings first node.type (node.value.getD .null) with
          | error e => simp [htext, hvalue] at h
          | ok own =>
            simp only [htext, if_true, hvalue, Except.ok.injEq, Prod.mk.injEq] at h
            obtain ⟨rfl, rfl⟩ := h
            exact logged_of_mem hpass hbelow htext hvalue
        · simp only [htext, if_false, Except.ok.injEq, Prod.mk.injEq] at h
          obtain ⟨rfl, rfl⟩ := h
          exact logged_of_not_mem hpass hbelow htext

end Node

/-! ## Trees -/

theorem Tells.eq_nil_of_sameAs {node result : Node} {places : List (List Nat)}
    {changes : List Change} (h : Tells node.survey result.survey places changes)
    (hsame : result.sameAs node = true) : changes = [] := by
  cases changes with
  | nil => rfl
  | cons change changes =>
    -- At the first place stand two texts that differ, and nodes that are the same have none.
    obtain ⟨path, others, hchange, -, rfl⟩ := List.forall₂_cons_right_iff.1 h.told
    have hne := (h.mem_iff path).1 List.mem_cons_self
    rw [hchange.1, hchange.2, Node.eq_of_sameAs hsame hchange.2 hchange.1] at hne
    exact absurd rfl hne

namespace Node

theorem tidyNodes_eq_map (nodes : List Node) : tidyNodes nodes = nodes.map tidy := by
  induction nodes with
  | nil => rfl
  | cons node nodes ih => rw [tidyNodes, List.map_cons, ih]

theorem childList_tidy (node : Node) : node.tidy.childList = node.childList.map tidy := by
  unfold childList
  rw [tidy_children]
  cases node.children with
  | absent | null => rfl
  | filled nodes => exact tidyNodes_eq_map nodes

theorem survey_tidy (node : Node) : node.tidy.survey = node.survey := by
  funext path
  induction path generalizing node with
  | nil => rw [survey_nil, survey_nil, tidy_type, tidy_value]
  | cons i path ih =>
    rw [survey_cons, survey_cons, childList_tidy, List.getElem?_map]
    cases node.childList[i]? with
    | none => rfl
    | some child => exact ih child

/-- What is written of a node that fits has its types and values at its places. -/
theorem Fits.survey_toJson {levels : Nat} {node : Node} (h : node.Fits levels) :
    node.toJson.survey = node.survey := by
  rw [survey_eq_of_check h.check_toJson, survey_tidy]

end Node

/-- Trees of which one restates the other have the same types and values at the same places. -/
theorem survey_eq_of_restated {before after : Json}
    (h : ∀ path, Option.Rel Restated (before.at? path) (after.at? path)) :
    before.survey = after.survey := by
  funext path
  unfold Json.survey
  have hpath := h path
  generalize before.at? path = found at hpath
  generalize after.at? path = found' at hpath
  cases hpath with
  | none => rfl
  | some hrestated => rw [Option.bind_some, Option.bind_some, hrestated.type, hrestated.value]

/-- What a run over a tree reports is what the run over its root does. -/
theorem exists_of_escapeTree {settings : Settings} {tree result : Json} {report : List Record}
    (h : escapeTree settings tree = .ok (result, report)) :
    ∃ root result' changes, Node.ofTree tree = .ok root ∧
      root.escape settings false = .ok (result', changes) ∧ result = result'.toJson ∧
      report = .entered root.type :: changes.map .changed := by
  unfold escapeTree at h
  obtain ⟨root, hroot, h⟩ := bind_eq_ok_iff.1 h
  obtain ⟨⟨result', changes⟩, hescape, h⟩ := bind_eq_ok_iff.1 h
  cases h
  exact ⟨root, result', changes, hroot, hescape, rfl, rfl⟩

/-- The report of a run that succeeds is told as it goes on. -/
theorem reportOf_eq {settings : Settings} {tree result : Json} {report : List Record}
    (h : escapeTree settings tree = .ok (result, report)) : reportOf settings tree = report := by
  obtain ⟨root, result', changes, hroot, hescape, rfl, rfl⟩ := exists_of_escapeTree h
  have hvisited := (Node.isLogged settings root false result' changes hescape).visited []
  rw [List.append_nil, changesAt, List.append_nil] at hvisited
  unfold reportOf
  rw [hroot]
  simp only [hvisited]

/-- The changes that a run reports are the difference between what it is given and what it returns,
for a node and for a tree, whose report begins with the type of its root. A run reports no change
just if it returns the node that it was given, or one that is the same, or a tree that restates the
tree that it was given at every place. -/
theorem escape_tells (settings : Settings) :
    (∀ (node result : Node) first changes, node.escape settings first = .ok (result, changes) →
      (∀ told, IsDifference node.survey result.survey told ↔ told = changes) ∧
      (result = node ↔ changes = []) ∧ (result.sameAs node = true ↔ changes = [])) ∧
    ∀ tree result report, escapeTree settings tree = .ok (result, report) →
      reportOf settings tree = report ∧
      ∃ type changes, tree.field? "type" = some (.string type) ∧
        report = .entered type :: changes.map .changed ∧
        (∀ told, IsDifference tree.survey result.survey told ↔ told = changes) ∧
        ((∀ path, Option.Rel Restated (tree.at? path) (result.at? path)) ↔ changes = []) := by
  constructor
  · intro node result first changes h
    have hlogged := Node.isLogged settings node first result changes h
    obtain ⟨places, htold⟩ := hlogged.told
    refine ⟨fun told => htold.isDifference_iff, ⟨?_, hlogged.kept⟩, htold.eq_nil_of_sameAs, ?_⟩
    · intro heq
      apply htold.eq_nil_iff.2
      rw [heq]
    · intro hnil
      rw [hlogged.kept hnil]
      exact Node.sameAs_self node
  · intro tree result report h
    refine ⟨reportOf_eq h, ?_⟩
    obtain ⟨root, result', changes, hroot, hescape, rfl, rfl⟩ := exists_of_escapeTree h
    have hlogged := Node.isLogged settings root false result' changes hescape
    obtain ⟨places, htold⟩ := hlogged.told
    have hcheck := Node.ofTree_eq_ok_iff.1 hroot
    have hresult := ((Node.fits_of_ofTree hroot).of_escape hescape).survey_toJson
    rw [← Node.survey_eq_of_check hcheck, ← hresult] at htold
    refine ⟨root.type, changes, (Node.exists_of_check_eq_ok hcheck).1, rfl,
      fun told => htold.isDifference_iff, ?_, ?_⟩
    · intro hrestated
      exact htold.eq_nil_iff.2 (survey_eq_of_restated hrestated)
    · intro hnil
      rw [hlogged.kept hnil]
      exact Node.restated_at?_of_check hcheck

/-- A text with texts below it, the second of which stays as it is, beside a passthrough node. -/
theorem escape_tells_children_first :
    let settings : Settings := { Settings.default with passthroughTypes := ["code"] }
    let text (s : String) (children : Slot (List Node)) : Node :=
      ⟨"text", some (.string s), children, []⟩
    let root (a b : String) : Node := ⟨"root", none, .filled [
      text a (.filled [text b .absent, text "plain" .absent]),
      ⟨"code", none, .filled [text "*c*" .absent], []⟩], []⟩
    let changes : List Change := [⟨"text", "*b*", "\\*b\\*"⟩, ⟨"text", "# *a*", "\\# \\*a\\*"⟩]
    (root "# *a*" "*b*").escape settings false =
      .ok (root "\\# \\*a\\*" "\\*b\\*", changes) ∧
    IsDifference (root "# *a*" "*b*").survey (root "\\# \\*a\\*" "\\*b\\*").survey changes ∧
    escapeTree settings (root "# *a*" "*b*").toJson =
      .ok ((root "\\# \\*a\\*" "\\*b\\*").toJson, .entered "root" :: changes.map .changed) ∧
    reportOf settings (root "# *a*" "*b*").toJson = .entered "root" :: changes.map .changed := by
  intro settings text root changes
  have hnode : (root "# *a*" "*b*").escape settings false =
      .ok (root "\\# \\*a\\*" "\\*b\\*", changes) := by rfl
  have htree : escapeTree settings (root "# *a*" "*b*").toJson =
      .ok ((root "\\# \\*a\\*" "\\*b\\*").toJson, .entered "root" :: changes.map .changed) := by
    rfl
  have htells := escape_tells settings
  exact ⟨hnode, ((htells.1 _ _ _ _ hnode).1 changes).2 rfl, htree, (htells.2 _ _ _ htree).1⟩

end LiteralMarkdown
