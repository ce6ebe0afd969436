import LiteralMarkdown.Escape
import Mathlib.Data.Finset.Filter
import Mathlib.Data.Finset.Range

/-!
# Marked texts

A marked text notes at each character whether a backslash is put before it. It has a plain reading,
without these backslashes, and a shown one, with them. `Escapes` says that one text comes from
another by backslashes before characters of a given list, at most one before each.

* `shown_eq_escapedAt`: the shown reading has its backslashes at the marked positions;
* `escapedFrom_append`: backslashes are put into a text part by part.
-/

namespace LiteralMarkdown

/-- A character of a text, and whether a backslash is put before it. -/
structure Glyph where
  char : Char
  escaped : Bool
deriving DecidableEq, Repr

namespace Glyph

/-- The text without the backslashes that are put in. -/
def plain (gs : List Glyph) : List Char := gs.map char

/-- The text with the backslashes that are put in. -/
def shown (gs : List Glyph) : List Char :=
  gs.flatMap fun g => if g.escaped then [escapeMarker, g.char] else [g.char]

/-- A text whose characters are all escaped, or none of them. -/
def ofText (escaped : Bool) (text : List Char) : List Glyph := text.map (⟨·, escaped⟩)

@[simp] theorem plain_nil : plain [] = [] := rfl

@[simp] theorem shown_nil : shown [] = [] := rfl

@[simp] theorem plain_cons (g : Glyph) (gs : List Glyph) :
    plain (g :: gs) = g.char :: plain gs := rfl

theorem shown_cons (g : Glyph) (gs : List Glyph) :
    shown (g :: gs) = (if g.escaped then [escapeMarker, g.char] else [g.char]) ++ shown gs := rfl

@[simp] theorem plain_append (gs hs : List Glyph) : plain (gs ++ hs) = plain gs ++ plain hs :=
  List.map_append

@[simp] theorem shown_append (gs hs : List Glyph) : shown (gs ++ hs) = shown gs ++ shown hs :=
  List.flatMap_append

theorem plain_flatMap {α : Type} (f : α → List Glyph) (as : List α) :
    plain (as.flatMap f) = as.flatMap fun a => plain (f a) := List.map_flatMap

theorem shown_flatMap {α : Type} (f : α → List Glyph) (as : List α) :
    shown (as.flatMap f) = as.flatMap fun a => shown (f a) := List.flatMap_assoc

@[simp] theorem length_plain (gs : List Glyph) : (plain gs).length = gs.length := List.length_map ..

@[simp] theorem plain_ofText (escaped : Bool) (text : List Char) :
    plain (ofText escaped text) = text := by
  simp [plain, ofText, Function.comp_def]

@[simp] theorem shown_ofText_false (text : List Char) : shown (ofText false text) = text := by
  simp [shown, ofText, List.flatMap_map]

@[simp] theorem shown_ofText_true (text : List Char) :
    shown (ofText true text) = escapeDelimiter text := by
  simp [shown, ofText, escapeDelimiter, List.flatMap_map]

theorem mem_ofText {escaped : Bool} {text : List Char} {g : Glyph} :
    g ∈ ofText escaped text ↔ g.char ∈ text ∧ g.escaped = escaped := by
  cases g with
  | mk char mark =>
    simp only [ofText, List.mem_map, Glyph.mk.injEq]
    constructor
    · rintro ⟨a, ha, rfl, rfl⟩
      exact ⟨ha, rfl⟩
    · rintro ⟨ha, rfl⟩
      exact ⟨char, ha, rfl, rfl⟩

/-- Backslashes that are put in are all that the shown reading adds. -/
theorem filter_shown (gs : List Glyph) :
    (shown gs).filter (· ≠ escapeMarker) = (plain gs).filter (· ≠ escapeMarker) := by
  induction gs with
  | nil => rfl
  | cons g gs ih =>
    rw [shown_cons, List.filter_append, ih, plain_cons, List.filter_cons]
    cases g.escaped <;> by_cases hg : g.char = escapeMarker <;> simp [hg]

/-! ## Positions -/

/-- The positions of the characters that are escaped. -/
def positions (gs : List Glyph) : Finset Nat :=
  (Finset.range gs.length).filter fun i => (gs[i]?).any Glyph.escaped

theorem mem_positions {gs : List Glyph} {i : Nat} :
    i ∈ positions gs ↔ ∃ g, gs[i]? = some g ∧ g.escaped = true := by
  rw [positions, Finset.mem_filter, Finset.mem_range]
  constructor
  · rintro ⟨-, h⟩
    cases hi : gs[i]? with
    | none => simp [hi] at h
    | some g => exact ⟨g, rfl, by simpa [hi] using h⟩
  · rintro ⟨g, hg, he⟩
    exact ⟨(List.getElem?_eq_some_iff.1 hg).1, by simp [hg, he]⟩

end Glyph

/-- The text with one backslash before each of the given positions. -/
def escapedAt (positions : Finset Nat) (text : List Char) : List Char :=
  text.zipIdx.flatMap fun (c, i) => if i ∈ positions then [escapeMarker, c] else [c]

/-- The text that lies ahead from an index on, with one backslash before each of the given
positions. -/
def escapedFrom (positions : Finset Nat) (index : Nat) (text : List Char) : List Char :=
  (text.zipIdx index).flatMap fun (c, i) => if i ∈ positions then [escapeMarker, c] else [c]

namespace Glyph

variable {S : Finset Nat} {index : Nat}

theorem shown_eq_escapedFrom {gs : List Glyph}
    (h : ∀ i g, gs[i]? = some g → (index + i ∈ S ↔ g.escaped = true)) :
    shown gs = escapedFrom S index (plain gs) := by
  induction gs generalizing index with
  | nil => rfl
  | cons g gs ih =>
    have hg : index ∈ S ↔ g.escaped = true := h 0 g rfl
    have htail : shown gs = escapedFrom S (index + 1) (plain gs) := ih fun i f hf => by
      rw [Nat.add_right_comm, Nat.add_assoc]
      exact h (i + 1) f (by simpa using hf)
    rw [shown_cons, plain_cons, htail]
    simp only [escapedFrom, List.zipIdx_cons, List.flatMap_cons, hg]

theorem shown_eq_escapedAt (gs : List Glyph) : shown gs = escapedAt (positions gs) (plain gs) := by
  have hmarked : ∀ i g, gs[i]? = some g → (0 + i ∈ positions gs ↔ g.escaped = true) := by
    intro i g hg
    rw [Nat.zero_add, mem_positions, hg]
    simp
  exact shown_eq_escapedFrom hmarked

/-! ### Part by part -/

theorem escapedFrom_append (x y : List Char) :
    escapedFrom S index (x ++ y) = escapedFrom S index x ++ escapedFrom S (index + x.length) y := by
  rw [escapedFrom, List.zipIdx_append, List.flatMap_append]
  rfl

variable {x : List Char}

/-- A part is shown with all its characters escaped or with none of them. -/
theorem escapedFrom_eq_shown {escaped : Bool}
    (h : ∀ i, index ≤ i → i < index + x.length → (i ∈ S ↔ escaped = true)) :
    escapedFrom S index x = shown (ofText escaped x) := by
  have hmarked : ∀ i g, (ofText escaped x)[i]? = some g →
      (index + i ∈ S ↔ g.escaped = true) := by
    intro i g hg
    have hlt : i < x.length := by
      simpa [ofText] using (List.getElem?_eq_some_iff.1 hg).1
    rw [(mem_ofText.1 (List.mem_of_getElem? hg)).2]
    exact h (index + i) (Nat.le_add_right index i) (by omega)
  rw [shown_eq_escapedFrom hmarked, plain_ofText]

theorem escapedFrom_of_not_mem (h : ∀ i, index ≤ i → i < index + x.length → i ∉ S) :
    escapedFrom S index x = x := by
  have hnone : ∀ i, index ≤ i → i < index + x.length → (i ∈ S ↔ false = true) :=
    fun i hlow hhigh => iff_of_false (h i hlow hhigh) Bool.false_ne_true
  rw [escapedFrom_eq_shown hnone, shown_ofText_false]

theorem escapedFrom_of_mem (h : ∀ i, index ≤ i → i < index + x.length → i ∈ S) :
    escapedFrom S index x = escapeDelimiter x := by
  have hall : ∀ i, index ≤ i → i < index + x.length → (i ∈ S ↔ true = true) :=
    fun i hlow hhigh => iff_of_true (h i hlow hhigh) rfl
  rw [escapedFrom_eq_shown hall, shown_ofText_true]

end Glyph

/-! ## Escaping in steps -/

open Glyph

/-- The second text is the first one with backslashes before some characters of the list, at most
one before each. -/
def Escapes (escapable : List Char) (text result : List Char) : Prop :=
  ∃ gs : List Glyph, plain gs = text ∧ shown gs = result ∧
    ∀ g ∈ gs, g.escaped = true → g.char ∈ escapable

theorem Escapes.eq_nil {escapable result : List Char} (h : Escapes escapable [] result) :
    result = [] := by
  rcases h with ⟨gs, hplain, rfl, -⟩
  have : gs = [] := by simpa [plain] using hplain
  rw [this, shown_nil]

end LiteralMarkdown
