import LiteralMarkdown.Proofs.Tree.Places
import Mathlib.Data.List.Sort

/-!
# Differences of trees

Two trees may hold different texts at the same places. Their difference is the list of these changes
in the order of a run over a tree: from left to right, children before their parent. `Tells` says so
of a list of changes and names their places. By `Tells.unique` there is no other such list.
Differences are put together from below:

* `Tells.beside`: what two neighbours give, one after the other;
* `Tells.isDifference_of_below`: what a text at the top adds to the changes below it.
-/

namespace LiteralMarkdown

/-! ## The order of places -/

/-- Of two places that differ only one comes before the other. -/
theorem not_postBefore_of_postBefore {path other : List Nat} (h : PostBefore path other) :
    ¬ PostBefore other path := by
  induction path generalizing other with
  | nil => exact h.elim
  | cons i path ih =>
    cases other with
    | nil => exact id
    | cons j other =>
      intro hback
      unfold PostBefore at h hback
      obtain hlt | ⟨hij, h⟩ := h
      · omega
      · obtain hlt | ⟨-, hback⟩ := hback
        · omega
        · exact ih h hback

instance : Std.Asymm PostBefore := ⟨fun _ _ h => not_postBefore_of_postBefore h⟩

instance : Std.Antisymm PostBefore := Std.Asymm.antisymm PostBefore

instance : Std.Irrefl PostBefore := Std.Asymm.irrefl

/-- The order among the children of a node does not depend on where they begin. -/
theorem postBefore_modifyHead_iff {path other : List Nat} :
    PostBefore (path.modifyHead (· + 1)) (other.modifyHead (· + 1)) ↔ PostBefore path other := by
  cases path with
  | nil => exact Iff.rfl
  | cons i path =>
    cases other with
    | nil => exact Iff.rfl
    | cons j other =>
      rw [List.modifyHead_cons, List.modifyHead_cons, PostBefore, PostBefore,
        Nat.add_lt_add_iff_right, Nat.add_right_cancel_iff]

/-! ## Differences -/

/-- The change is what becomes of the text at the place. -/
def Change.HappensAt (change : Change) (before after : Survey) (path : List Nat) : Prop :=
  before path = some (change.type, .string change.before) ∧
    after path = some (change.type, .string change.after)

/-- The changes happen at these places, one at each of them. The places are those where the two
trees differ, from left to right with children before their parent. -/
structure Tells (before after : Survey) (places : List (List Nat)) (changes : List Change) :
    Prop where
  ordered : places.Pairwise PostBefore
  mem_iff : ∀ path, path ∈ places ↔ before path ≠ after path
  told : List.Forall₂ (fun path change => change.HappensAt before after path) places changes

/-- The changes are the difference of two trees. -/
def IsDifference (before after : Survey) (changes : List Change) : Prop :=
  ∃ places, Tells before after places changes

theorem Tells.refl (survey : Survey) : Tells survey survey [] [] where
  ordered := .nil
  mem_iff := by simp
  told := .nil

section Difference

variable {before after : Survey} {places : List (List Nat)} {changes : List Change}
  (h : Tells before after places changes)
include h

/-- Two trees have one difference at most. -/
theorem Tells.unique {places' : List (List Nat)} {changes' : List Change}
    (h' : Tells before after places' changes') : places = places' ∧ changes = changes' := by
  have hplaces : places = places' := by
    apply h.ordered.eq_of_mem_iff h'.ordered
    intro path
    rw [h.mem_iff, h'.mem_iff]
  subst hplaces
  refine ⟨rfl, Relator.RightUnique.forall₂ ?_ h.told h'.told⟩
  intro path change change' hchange hchange'
  obtain ⟨hbefore, hafter⟩ := hchange
  obtain ⟨hbefore', hafter'⟩ := hchange'
  rw [hbefore] at hbefore'
  rw [hafter] at hafter'
  cases change
  cases change'
  simp_all

theorem Tells.isDifference_iff {told : List Change} :
    IsDifference before after told ↔ told = changes := by
  constructor
  · intro hdiff
    obtain ⟨places', htold⟩ := hdiff
    exact (htold.unique h).2
  · intro heq
    rw [heq]
    exact ⟨places, h⟩

/-- There are no changes just where the two trees do not differ. -/
theorem Tells.eq_nil_iff : changes = [] ↔ before = after := by
  constructor
  · intro hnil
    have hplaces : places = [] := by
      have htold := h.told
      rw [hnil] at htold
      exact List.forall₂_nil_right_iff.1 htold
    funext path
    by_contra hne
    have hmem := (h.mem_iff path).2 hne
    rw [hplaces] at hmem
    exact List.not_mem_nil hmem
  · intro heq
    subst heq
    exact (h.unique (.refl before)).2

end Difference

/-! ## Below the top -/

/-- A survey without what it says of the top. -/
def Survey.below (survey : Survey) : Survey
  | [] => none
  | i :: path => survey (i :: path)

/-- The survey of what lies below two neighbours, the second one standing for any number of nodes:
the index of each of these is one more here. -/
def Survey.beside (first rest : Survey) : Survey
  | [] => none
  | 0 :: path => first path
  | (i + 1) :: path => rest (i :: path)

@[simp] theorem Survey.beside_nil (first rest : Survey) : first.beside rest [] = none := rfl

@[simp] theorem Survey.beside_zero (first rest : Survey) (path : List Nat) :
    first.beside rest (0 :: path) = first path := rfl

@[simp] theorem Survey.beside_succ (first rest : Survey) (i : Nat) (path : List Nat) :
    first.beside rest ((i + 1) :: path) = rest (i :: path) := rfl

section Below

variable {before after : Survey} {places : List (List Nat)} {changes : List Change}
  (h : Tells before.below after.below places changes)
include h

theorem Tells.nil_not_mem_of_below : [] ∉ places := by
  intro hmem
  exact (h.mem_iff []).1 hmem rfl

theorem Tells.told_of_below :
    List.Forall₂ (fun path change => change.HappensAt before after path) places changes := by
  refine h.told.imp ?_
  intro path change hchange
  cases path with
  | nil => exact absurd hchange.1 (by simp [Survey.below])
  | cons i path => exact hchange

/-- Where two trees say the same of their tops, all changes are below. -/
theorem Tells.of_below (htop : before [] = after []) : Tells before after places changes := by
  refine ⟨h.ordered, ?_, h.told_of_below⟩
  intro path
  cases path with
  | nil => exact ⟨fun hmem => absurd hmem h.nil_not_mem_of_below, fun hne => absurd htop hne⟩
  | cons i path => exact h.mem_iff (i :: path)

/-- A change at the top comes after all changes below. -/
theorem Tells.of_below_of_ne {change : Change} (htop : change.HappensAt before after [])
    (hne : change.before ≠ change.after) :
    Tells before after (places ++ [[]]) (changes ++ [change]) := by
  refine ⟨?_, ?_, ?_⟩
  · refine List.pairwise_append.2 ⟨h.ordered, List.pairwise_singleton _ _, ?_⟩
    intro path hpath last hlast
    rw [List.mem_singleton.1 hlast]
    cases path with
    | nil => exact absurd hpath h.nil_not_mem_of_below
    | cons i path => exact trivial
  · intro path
    rw [List.mem_append, List.mem_singleton]
    cases path with
    | nil =>
      have hdiffer : before [] ≠ after [] := by
        rw [htop.1, htop.2]
        simpa using hne
      simp [hdiffer]
    | cons i path =>
      simp only [List.cons_ne_nil, or_false]
      exact h.mem_iff (i :: path)
  · exact List.rel_append h.told_of_below (.cons htop .nil)

/-- A text at the top is one change more, if it changes. -/
theorem Tells.isDifference_of_below {type s escaped : String}
    (hbefore : before [] = some (type, .string s))
    (hafter : after [] = some (type, .string escaped)) :
    IsDifference before after
      (changes ++ if escaped = s then [] else [⟨type, s, escaped⟩]) := by
  by_cases hsame : escaped = s
  · rw [if_pos hsame, List.append_nil]
    refine ⟨places, h.of_below ?_⟩
    rw [hbefore, hafter, hsame]
  · rw [if_neg hsame]
    exact ⟨_, h.of_below_of_ne ⟨hbefore, hafter⟩ fun heq => hsame heq.symm⟩

end Below

/-- The changes at two neighbours are the changes at the first and then the changes at the
second. -/
theorem Tells.beside {before after rest rest' : Survey} {places more : List (List Nat)}
    {own others : List Change} (h : Tells before after places own)
    (hrest : Tells rest rest' more others) (hnone : rest [] = none) (hnone' : rest' [] = none) :
    Tells (before.beside rest) (after.beside rest')
      (places.map (0 :: ·) ++ more.map (·.modifyHead (· + 1))) (own ++ others) := by
  have hnil : [] ∉ more := by
    intro hmem
    exact (hrest.mem_iff []).1 hmem (hnone.trans hnone'.symm)
  refine ⟨?_, ?_, ?_⟩
  · refine List.pairwise_append.2 ⟨?_, ?_, ?_⟩
    · rw [List.pairwise_map]
      refine h.ordered.imp ?_
      intro path other hbefore
      exact Or.inr ⟨rfl, hbefore⟩
    · rw [List.pairwise_map]
      refine hrest.ordered.imp ?_
      intro path other hbefore
      exact postBefore_modifyHead_iff.2 hbefore
    · intro path hpath other hother
      obtain ⟨path', -, rfl⟩ := List.mem_map.1 hpath
      obtain ⟨other', -, rfl⟩ := List.mem_map.1 hother
      cases other' with
      | nil => exact trivial
      | cons j other' => exact Or.inl (Nat.succ_pos j)
  · intro path
    rw [List.mem_append, List.mem_map, List.mem_map]
    match path with
    | [] => simpa using hnil
    | 0 :: path =>
      have hhead : ∀ other : List Nat, other.modifyHead (· + 1) ≠ 0 :: path := by
        intro other
        cases other <;> simp
      simpa [hhead] using h.mem_iff path
    | (i + 1) :: path =>
      have hhead : ∀ other : List Nat,
          other.modifyHead (· + 1) = (i + 1) :: path ↔ other = i :: path := by
        intro other
        cases other <;> simp
      simpa [hhead] using hrest.mem_iff (i :: path)
  · refine List.rel_append (List.forall₂_map_left_iff.2 h.told) (List.forall₂_map_left_iff.2 ?_)
    refine hrest.told.imp ?_
    intro path change hchange
    cases path with
    | nil => exact absurd (hnone.symm.trans hchange.1) (by simp)
    | cons i path => exact hchange

end LiteralMarkdown
