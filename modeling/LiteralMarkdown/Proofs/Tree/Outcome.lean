import LiteralMarkdown.Proofs.Tree.Rewriting
import LiteralMarkdown.Proofs.Tree.Validity

/-!
# How a run over a tree ends

A run over a tree ends in one of four ways: the value is no object, it breaks the schema of nodes
somewhere, the value of a text-bearing node is refused, or the tree is escaped. Of several values
that would be refused, the error is about the first in the order in which children come before their
parent. The main statement is `escapeTree_outcome`.
-/

namespace LiteralMarkdown

namespace Settings

/-- The value of a text-bearing node of the type is refused with the error: it is no text, or a text
that is too long. -/
def Refuses (settings : Settings) (type : String) (value : Json) (e : TreeError) : Prop :=
  ((∀ s, value ≠ .string s) ∧ e = .valueNotText type value) ∨
    ∃ s limit, value = .string s ∧ settings.maxValueLength = some limit ∧ limit < s.length ∧
      e = .valueTooLong s.length limit

/-- At the place stands a text-bearing node that is not shielded, and its value is refused with the
error. -/
def RefusesAt (settings : Settings) (survey : Survey) (path : List Nat) (e : TreeError) : Prop :=
  ∃ type value, survey path = some (type, value) ∧ type ∈ settings.textTypes ∧
    ¬ settings.Shields survey path ∧ settings.Refuses type value e

/-- Of all places where a value is refused, this one comes first. -/
def FirstRefusal (settings : Settings) (survey : Survey) (path : List Nat) (e : TreeError) : Prop :=
  settings.RefusesAt survey path e ∧
    ∀ other e', settings.RefusesAt survey other e' → ¬ PostBefore other path

/-! ## There is one first refusal at most -/

theorem Refuses.unique {settings : Settings} {type : String} {value : Json} {e e' : TreeError}
    (h : settings.Refuses type value e) (h' : settings.Refuses type value e') : e = e' := by
  rcases h with ⟨hnot, rfl⟩ | ⟨s, limit, rfl, hlimit, -, rfl⟩
  · rcases h' with ⟨-, rfl⟩ | ⟨s, limit, hs, -⟩
    · rfl
    · exact absurd hs (hnot s)
  · rcases h' with ⟨hnot, -⟩ | ⟨s', limit', hs, hlimit', -, rfl⟩
    · exact absurd rfl (hnot s)
    · cases hs
      rw [hlimit] at hlimit'
      cases hlimit'
      rfl

/-- Of two places one comes before the other. -/
theorem postBefore_total (path other : List Nat) :
    path = other ∨ PostBefore path other ∨ PostBefore other path := by
  induction path generalizing other with
  | nil =>
    cases other with
    | nil => exact Or.inl rfl
    | cons j other => exact Or.inr (Or.inr trivial)
  | cons i path ih =>
    cases other with
    | nil => exact Or.inr (Or.inl trivial)
    | cons j other =>
      rcases Nat.lt_trichotomy i j with hlt | rfl | hlt
      · exact Or.inr (Or.inl (Or.inl hlt))
      · rcases ih other with rfl | h | h
        · exact Or.inl rfl
        · exact Or.inr (Or.inl (Or.inr ⟨rfl, h⟩))
        · exact Or.inr (Or.inr (Or.inr ⟨rfl, h⟩))
      · exact Or.inr (Or.inr (Or.inl hlt))

theorem FirstRefusal.unique {settings : Settings} {survey : Survey} {path path' : List Nat}
    {e e' : TreeError} (h : settings.FirstRefusal survey path e)
    (h' : settings.FirstRefusal survey path' e') : path = path' ∧ e = e' := by
  rcases postBefore_total path path' with rfl | hbefore | hbefore
  · rcases h.1 with ⟨type, value, hfound, -, -, hrefuses⟩
    rcases h'.1 with ⟨type', value', hfound', -, -, hrefuses'⟩
    rw [hfound] at hfound'
    cases hfound'
    exact ⟨rfl, hrefuses.unique hrefuses'⟩
  · exact absurd hbefore (h'.2 path e h.1)
  · exact absurd hbefore (h.2 path' e' h'.1)

end Settings

/-! ## Values -/

theorem exceeds?_eq_some_iff {settings : Settings} {s : String} {e : TreeError} :
    settings.exceeds? s = some e ↔ ∃ limit, settings.maxValueLength = some limit ∧
      limit < s.length ∧ e = .valueTooLong s.length limit := by
  unfold Settings.exceeds? Settings.refusesLength?
  cases settings.maxValueLength with
  | none => simp
  | some limit =>
    by_cases hlt : limit < s.length
    · simp [hlt, eq_comm]
    · simp [hlt]

/-- A value is escaped just if nothing refuses it. -/
theorem escapeValue_outcome (settings : Settings) (first : Bool) (type : String) (value : Json) :
    (∃ done, escapeValue settings first type value = .ok done ∧
      ∀ e, ¬ settings.Refuses type value e) ∨
    ∃ e, escapeValue settings first type value = .error e ∧ settings.Refuses type value e := by
  cases value with
  | string s =>
    cases hexceeds : settings.exceeds? s with
    | some e =>
      rcases exceeds?_eq_some_iff.1 hexceeds with ⟨limit, hlimit, hlt, he⟩
      refine Or.inr ⟨e, ?_, Or.inr ⟨s, limit, rfl, hlimit, hlt, he⟩⟩
      simp only [escapeValue, hexceeds]
    | none =>
      have hvalue : escapeValue settings first type (.string s) = .ok (escapeText first s,
          if escapeText first s = s then [] else [⟨type, s, escapeText first s⟩]) := by
        simp only [escapeValue, hexceeds]
      refine Or.inl ⟨_, hvalue, ?_⟩
      rintro e (⟨hnot, -⟩ | ⟨s', limit, hs, hlimit, hlt, -⟩)
      · exact hnot s rfl
      · cases hs
        have := exceeds?_eq_some_iff.2 ⟨limit, hlimit, hlt, rfl⟩
        rw [hexceeds] at this
        cases this
  | null | bool b | int n | float x | list items | object fields =>
    refine Or.inr ⟨_, rfl, Or.inl ⟨fun s hs => ?_, rfl⟩⟩
    cases hs

/-! ## Nodes -/

namespace Node

theorem refusesAt_nil {settings : Settings} {node : Node} {e : TreeError} :
    settings.RefusesAt node.survey [] e ↔ node.type ∈ settings.textTypes ∧
      node.type ∉ settings.passthroughTypes ∧
      settings.Refuses node.type (node.value.getD .null) e := by
  unfold Settings.RefusesAt
  rw [survey_nil, shields_nil]
  constructor
  · rintro ⟨type, value, hfound, htext, hpass, hrefuses⟩
    cases hfound
    exact ⟨htext, hpass, hrefuses⟩
  · rintro ⟨htext, hpass, hrefuses⟩
    exact ⟨_, _, rfl, htext, hpass, hrefuses⟩

theorem refusesAt_cons {settings : Settings} {node : Node} {i : Nat} {path : List Nat}
    {e : TreeError} :
    settings.RefusesAt node.survey (i :: path) e ↔ node.type ∉ settings.passthroughTypes ∧
      ∃ child, node.childList[i]? = some child ∧ settings.RefusesAt child.survey path e := by
  unfold Settings.RefusesAt
  rw [survey_cons, shields_cons]
  constructor
  · rintro ⟨type, value, hfound, htext, hshield, hrefuses⟩
    rcases Option.bind_eq_some_iff.1 hfound with ⟨child, hchild, hfound⟩
    exact ⟨fun h => hshield (Or.inl h), child, hchild, type, value, hfound, htext,
      fun h => hshield (Or.inr ⟨child, hchild, h⟩), hrefuses⟩
  · rintro ⟨hpass, child, hchild, type, value, hfound, htext, hshield, hrefuses⟩
    refine ⟨type, value, ?_, htext, ?_, hrefuses⟩
    · rw [hchild, Option.bind_some, hfound]
    · rintro (h | ⟨other, hother, h⟩)
      · exact hpass h
      · rw [hchild] at hother
        cases hother
        exact hshield h

/-- Where nothing is refused below a node, what is refused at the node itself comes first. -/
theorem firstRefusal_nil {settings : Settings} {node : Node} {e : TreeError}
    (hbelow : ∀ i path e, ¬ settings.RefusesAt node.survey (i :: path) e)
    (h : settings.RefusesAt node.survey [] e) : settings.FirstRefusal node.survey [] e := by
  refine ⟨h, fun other e' hother hbefore => ?_⟩
  cases other with
  | nil => exact hbefore
  | cons i other => exact hbelow i other e' hother

/-- The first refusal below a child comes first of all if nothing is refused below earlier
children. -/
theorem firstRefusal_cons {settings : Settings} {node child : Node} {i : Nat} {path : List Nat}
    {e : TreeError} (hpass : node.type ∉ settings.passthroughTypes)
    (hchild : node.childList[i]? = some child) (h : settings.FirstRefusal child.survey path e)
    (hearlier : ∀ j < i, ∀ other, node.childList[j]? = some other →
      ∀ path e, ¬ settings.RefusesAt other.survey path e) :
    settings.FirstRefusal node.survey (i :: path) e := by
  refine ⟨refusesAt_cons.2 ⟨hpass, child, hchild, h.1⟩, fun other e' hother hbefore => ?_⟩
  cases other with
  | nil => exact hbefore
  | cons j other =>
    rcases refusesAt_cons.1 hother with ⟨-, child', hchild', hrefuses⟩
    rcases hbefore with hlt | ⟨rfl, hbefore⟩
    · exact hearlier j hlt child' hchild' other e' hrefuses
    · rw [hchild] at hchild'
      cases hchild'
      exact h.2 other e' hrefuses hbefore

/-- How escaping a node ends: it succeeds and nothing is refused, or its error is the first
refusal. -/
def Decided (settings : Settings) (first : Bool) (node : Node) : Prop :=
  (∃ done, node.escape settings first = .ok done ∧
    ∀ path e, ¬ settings.RefusesAt node.survey path e) ∨
  ∃ path e, node.escape settings first = .error e ∧ settings.FirstRefusal node.survey path e

/-- How escaping some nodes one after the other ends, if it is known of each of them: it stops at
the first of them where something is refused. -/
theorem escapeNodes_outcome {settings : Settings} {nodes : List Node} (first : Bool)
    (h : ∀ node ∈ nodes, ∀ first, Decided settings first node) :
    (∃ done, escapeNodes settings first nodes = .ok done ∧
      ∀ (i : Nat) node, nodes[i]? = some node → ∀ path e, ¬ settings.RefusesAt node.survey path e) ∨
    ∃ (i : Nat) (node : Node) (path : List Nat) (e : TreeError), nodes[i]? = some node ∧
      escapeNodes settings first nodes = .error e ∧ settings.FirstRefusal node.survey path e ∧
      ∀ j < i, ∀ other, nodes[j]? = some other →
        ∀ path e, ¬ settings.RefusesAt other.survey path e := by
  induction nodes generalizing first with
  | nil =>
    refine Or.inl ⟨_, rfl, ?_⟩
    intro i node hnode
    cases hnode
  | cons node nodes ih =>
    have hrest := ih false fun other hother => h other (List.mem_cons_of_mem node hother)
    rw [escapeNodes]
    rcases h node List.mem_cons_self first with ⟨done, hdone, hnone⟩ | ⟨path, e, herror, hfirst⟩
    · rw [hdone]
      rcases hrest with ⟨rest, hok, hnone'⟩ | ⟨i, other, path, e, hother, herror, hfirst, hbefore⟩
      · refine Or.inl ⟨_, by rw [hok]; rfl, ?_⟩
        intro i other hother
        cases i with
        | zero =>
          cases hother
          exact hnone
        | succ i => exact hnone' i other hother
      · -- Nothing is refused in the first node, so the first refusal of the others stays first.
        refine Or.inr ⟨i + 1, other, path, e, hother, by rw [herror]; rfl, hfirst, ?_⟩
        intro j hj another hanother
        cases j with
        | zero =>
          cases hanother
          exact hnone
        | succ j => exact hbefore j (Nat.lt_of_succ_lt_succ hj) another hanother
    · rw [herror]
      exact Or.inr ⟨0, node, path, e, rfl, rfl, hfirst, fun j hj => absurd hj (Nat.not_lt_zero j)⟩

theorem escapeChildren_outcome {settings : Settings} {node : Node}
    (h : ∀ child ∈ node.childList, ∀ first, Decided settings first child) :
    (∃ done, escapeChildren settings node.children = .ok done ∧
      ∀ (i : Nat) child, node.childList[i]? = some child →
        ∀ path e, ¬ settings.RefusesAt child.survey path e) ∨
    ∃ (i : Nat) (child : Node) (path : List Nat) (e : TreeError), node.childList[i]? = some child ∧
      escapeChildren settings node.children = .error e ∧
      settings.FirstRefusal child.survey path e ∧
      ∀ j < i, ∀ other, node.childList[j]? = some other →
        ∀ path e, ¬ settings.RefusesAt other.survey path e := by
  rcases node with ⟨type, value, children, extras⟩
  cases children with
  | absent | null =>
    refine Or.inl ⟨_, rfl, ?_⟩
    intro i child hchild
    cases hchild
  | filled nodes =>
    rcases @escapeNodes_outcome settings nodes true h with
      ⟨done, hdone, hnone⟩ | ⟨i, child, path, e, hchild, herror, h⟩
    · refine Or.inl ⟨(.filled done.1, done.2), ?_, hnone⟩
      rw [escapeChildren, hdone]
      rfl
    · refine Or.inr ⟨i, child, path, e, hchild, ?_, h⟩
      rw [escapeChildren, herror]
      rfl

/-- Escaping a node ends with the first refusal below it or at it, or succeeds if there is none. -/
theorem escape_decided (settings : Settings) (node : Node) :
    ∀ first, Decided settings first node := by
  induction node using induction_on_children with
  | step node ih =>
    intro first
    unfold Decided
    rw [escape_eq]
    by_cases hpass : node.type ∈ settings.passthroughTypes
    · -- A passthrough node shields itself and all below it.
      rw [if_pos hpass]
      refine Or.inl ⟨_, rfl, ?_⟩
      rintro path e ⟨type, value, -, -, hshield, -⟩
      exact hshield (shields_of_mem hpass path)
    · rw [if_neg hpass]
      rcases escapeChildren_outcome ih with
        ⟨done, hdone, hnone⟩ | ⟨i, child, path, e, hchild, herror, hfirst, hbefore⟩
      · have hbelow : ∀ i path e, ¬ settings.RefusesAt node.survey (i :: path) e := by
          intro i path e hrefuses
          rcases refusesAt_cons.1 hrefuses with ⟨-, child, hchild, hrefuses⟩
          exact hnone i child hchild path e hrefuses
        rw [hdone]
        by_cases htext : node.type ∈ settings.textTypes
        · rcases escapeValue_outcome settings first node.type (node.value.getD .null) with
            ⟨own, hown, hnone'⟩ | ⟨e, herror, hrefuses⟩
          · refine Or.inl
              ⟨(⟨node.type, some (.string own.1), done.1, node.extras⟩, done.2 ++ own.2),
                by simp only [if_pos htext, hown], ?_⟩
            intro path e hrefuses
            cases path with
            | nil => exact hnone' e (refusesAt_nil.1 hrefuses).2.2
            | cons i path => exact hbelow i path e hrefuses
          · exact Or.inr ⟨[], e, by simp only [if_pos htext, herror],
              firstRefusal_nil hbelow (refusesAt_nil.2 ⟨htext, hpass, hrefuses⟩)⟩
        · refine Or.inl ⟨(⟨node.type, node.value, done.1, node.extras⟩, done.2),
            by simp only [if_neg htext], ?_⟩
          intro path e hrefuses
          cases path with
          | nil => exact htext (refusesAt_nil.1 hrefuses).1
          | cons i path => exact hbelow i path e hrefuses
      · exact Or.inr ⟨i :: path, e, by rw [herror], firstRefusal_cons hpass hchild hfirst hbefore⟩

end Node

/-! ## Trees -/

open Schema.Checked in
/-- How a run over a tree ends: refused as no object; refused as breaking the schema of nodes, with
the type that the root gives; refused for the first value that is no text or too long; or with a
result. -/
theorem escapeTree_outcome (settings : Settings) (tree : Json) :
    ((∀ fields, tree ≠ .object fields) ∧ escapeTree settings tree = .error (.notObject tree)) ∨
    ((∃ fields, tree = .object fields) ∧
      (((∃ path, tree.BreaksAt Node.levels path) ∧ ∃ faults, escapeTree settings tree =
          .error (.malformed ((tree.field? "type").getD .null) faults)) ∨
        ((∀ path, ¬ tree.BreaksAt Node.levels path) ∧
          ((∃ path e, settings.FirstRefusal tree.survey path e ∧
              escapeTree settings tree = .error e) ∨
            ((∀ path e, ¬ settings.RefusesAt tree.survey path e) ∧
              ∃ result, escapeTree settings tree = .ok result))))) := by
  cases tree with
  | object fields =>
    refine Or.inr ⟨⟨fields, rfl⟩, ?_⟩
    have hroot : Node.ofTree (.object fields) = (Node.check Node.levels (.object fields)).mapError
        (.malformed ((Json.lookup? "type" fields).getD .null)) := rfl
    unfold escapeTree
    rw [hroot, ← Node.fails_check_iff, ← not_exists, ← Node.fails_check_iff]
    cases hcheck : Node.check Node.levels (.object fields) with
    | error faults => exact Or.inl ⟨⟨faults, rfl⟩, faults, rfl⟩
    | ok root =>
      refine Or.inr ⟨not_fails_ok root, ?_⟩
      rw [Node.survey_eq_of_check hcheck]
      show (∃ path e, _ ∧ (root.escape settings false >>= _) = .error e) ∨
        (_ ∧ ∃ result, (root.escape settings false >>= _) = .ok result)
      rcases Node.escape_decided settings root false with
        ⟨done, hdone, hnone⟩ | ⟨path, e, herror, hfirst⟩
      · rw [hdone]
        exact Or.inr ⟨hnone, (done.1.toJson, .entered root.type :: done.2.map .changed), rfl⟩
      · rw [herror]
        exact Or.inl ⟨path, e, hfirst, rfl⟩
  | null | bool b | int n | float x | string s | list items =>
    refine Or.inl ⟨fun fields h => ?_, rfl⟩
    cases h

end LiteralMarkdown
