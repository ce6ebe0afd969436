import LiteralMarkdown.Proofs.Marks
import Mathlib.Data.List.Forall2

/-!
# Layers of marks

Several markings of one text. `Glyph.carry` takes a marking over to the text in which the
backslashes of another one have been put in, and `Glyph.merge` puts two markings into one.

* `exists_eq_carry`: a marking of an escaped text that leaves its backslashes alone is carried over
  from the text itself;
* `shown_carry_comm`: it does not matter which of two markings is shown first;
* `shown_merge`: two markings that share no mark are shown one after the other or as one;
* `Escapes.trans`: two steps of escaping make one, if they go for different characters.
-/

namespace LiteralMarkdown

namespace Glyph

/-- Where a marking that goes for one character has a mark, the text has this character. -/
theorem getElem?_of_mem_positions {gs : List Glyph} {d : Char}
    (hgs : ∀ g ∈ gs, g.escaped = true → g.char = d) {i : Nat} (hi : i ∈ positions gs) :
    (plain gs)[i]? = some d := by
  rcases mem_positions.1 hi with ⟨g, hg, he⟩
  rw [plain, List.getElem?_map, hg, ← hgs g (List.mem_of_getElem? hg) he]
  rfl

/-! ## One marking on top of another -/

/-- The second marking of a text, carried over to the text with the backslashes of the first. -/
def carry : List Glyph → List Glyph → List Glyph
  | g :: gs, h :: hs =>
    if g.escaped then ⟨escapeMarker, false⟩ :: h :: carry gs hs else h :: carry gs hs
  | _, _ => []

theorem carry_cons (g h : Glyph) (gs hs : List Glyph) : carry (g :: gs) (h :: hs) =
    (if g.escaped then [⟨escapeMarker, false⟩, h] else [h]) ++ carry gs hs := by
  rw [carry]
  split <;> rfl

/-- Both are markings of one text. -/
def SameText : List Glyph → List Glyph → Prop := List.Forall₂ fun g h => g.char = h.char

theorem sameText_iff {gs hs : List Glyph} : SameText gs hs ↔ plain gs = plain hs := by
  rw [SameText, plain, plain, ← List.forall₂_eq_eq_eq, List.forall₂_map_left_iff,
    List.forall₂_map_right_iff]

theorem SameText.plain_eq {gs hs : List Glyph} (h : SameText gs hs) : plain gs = plain hs :=
  sameText_iff.1 h

theorem SameText.refl (gs : List Glyph) : SameText gs gs := sameText_iff.2 rfl

theorem SameText.trans {gs hs ks : List Glyph} (h : SameText gs hs) (h' : SameText hs ks) :
    SameText gs ks :=
  sameText_iff.2 (h.plain_eq.trans h'.plain_eq)

theorem SameText.symm {gs hs : List Glyph} (h : SameText gs hs) : SameText hs gs :=
  sameText_iff.2 h.plain_eq.symm

theorem carry_append {gs hs : List Glyph} (h : SameText gs hs) (gs' hs' : List Glyph) :
    carry (gs ++ gs') (hs ++ hs') = carry gs hs ++ carry gs' hs' := by
  induction h with
  | nil => rfl
  | @cons g k gs hs _ _ ih =>
    rw [List.cons_append, List.cons_append, carry_cons, carry_cons, ih, List.append_assoc]

theorem plain_carry {gs hs : List Glyph} (h : SameText gs hs) :
    plain (carry gs hs) = shown gs := by
  induction h with
  | nil => rfl
  | @cons g k gs hs hk _ ih =>
    rw [carry_cons, plain_append, ih, shown_cons]
    cases g.escaped <;> simp [hk]

theorem mem_carry {gs hs : List Glyph} (h : SameText gs hs) {k : Glyph} (hk : k ∈ hs) :
    k ∈ carry gs hs := by
  induction h with
  | nil => exact hk
  | @cons g f gs hs _ _ ih =>
    rw [carry_cons]
    rcases List.mem_cons.1 hk with rfl | hk
    · refine List.mem_append_left _ ?_
      cases g.escaped <;> simp
    · exact List.mem_append_right _ (ih hk)

/-- Of two markings of a text either one can be shown first. -/
theorem shown_carry_comm {gs hs : List Glyph} (h : SameText gs hs) :
    shown (carry gs hs) = shown (carry hs gs) := by
  induction h with
  | nil => rfl
  | @cons g k gs hs hk _ ih =>
    rw [carry_cons, carry_cons, shown_append, shown_append, ih]
    congr 1
    cases hg : g.escaped <;> cases hh : k.escaped <;> simp [shown, hg, hh, hk]

theorem carry_ofText_false (gs : List Glyph) :
    carry gs (ofText false (plain gs)) = ofText false (shown gs) := by
  induction gs with
  | nil => rfl
  | cons g gs ih =>
    have htext : ofText false (plain (g :: gs)) = ⟨g.char, false⟩ :: ofText false (plain gs) := rfl
    rw [htext, carry_cons, ih, shown_cons]
    cases g.escaped <;> simp [ofText]

/-- A marking without marks carries nothing. -/
theorem carry_of_unmarked {gs hs : List Glyph} (h : SameText gs hs)
    (hgs : ∀ g ∈ gs, g.escaped = false) : carry gs hs = hs := by
  induction h with
  | nil => rfl
  | @cons g k gs hs _ _ ih =>
    have hg := hgs g List.mem_cons_self
    rw [carry_cons, hg, ih fun g' hg' => hgs g' (List.mem_cons_of_mem g hg')]
    rfl

theorem plain_replicate (n : Nat) (d : Char) (escaped : Bool) :
    plain (List.replicate n ⟨d, escaped⟩) = List.replicate n d := List.map_replicate

theorem unmarked_of_mem_replicate {n : Nat} {d : Char} :
    ∀ g ∈ List.replicate n (⟨d, false⟩ : Glyph), g.escaped = false := by
  intro g hg
  rw [List.eq_of_mem_replicate hg]

/-- What lies between and behind two unmarked runs is carried over on its own. -/
theorem carry_parts {gs₁ gs₂ hs₁ hs₂ first second : List Glyph} {d : Char} {n k : Nat}
    (hfirst : plain first = List.replicate n d) (hsecond : plain second = List.replicate k d)
    (h : SameText gs₁ hs₁) :
    carry (List.replicate n ⟨d, false⟩ ++ (gs₁ ++ (List.replicate k ⟨d, false⟩ ++ gs₂)))
      (first ++ (hs₁ ++ (second ++ hs₂))) =
    first ++ (carry gs₁ hs₁ ++ (second ++ carry gs₂ hs₂)) := by
  have hsame₁ : SameText (List.replicate n ⟨d, false⟩) first :=
    sameText_iff.2 ((plain_replicate n d false).trans hfirst.symm)
  have hsame₂ : SameText (List.replicate k ⟨d, false⟩) second :=
    sameText_iff.2 ((plain_replicate k d false).trans hsecond.symm)
  rw [carry_append hsame₁, carry_append h, carry_append hsame₂,
    carry_of_unmarked hsame₁ unmarked_of_mem_replicate,
    carry_of_unmarked hsame₂ unmarked_of_mem_replicate]

/-- A marking of the shown reading that leaves alone the backslashes put in is carried over from a
marking of the plain reading. -/
theorem exists_eq_carry {gs ks : List Glyph} (h : plain ks = shown gs)
    (hks : ∀ k ∈ ks, k.escaped = true → k.char ≠ escapeMarker) :
    ∃ hs, SameText gs hs ∧ ks = carry gs hs := by
  induction gs generalizing ks with
  | nil =>
    have : ks = [] := by simpa [plain] using h
    exact ⟨[], .nil, this⟩
  | cons g gs ih =>
    rw [shown_cons] at h
    cases hg : g.escaped with
    | true =>
      rw [hg, if_pos rfl] at h
      rcases List.map_eq_cons_iff.1 h with ⟨a, ks, rfl, ha, h⟩
      rcases List.map_eq_cons_iff.1 h with ⟨b, ks, rfl, hb, h⟩
      have hunmarked : a = ⟨escapeMarker, false⟩ := by
        cases a with
        | mk char mark =>
          obtain rfl : char = escapeMarker := ha
          cases mark with
          | false => rfl
          | true => exact absurd rfl (hks _ List.mem_cons_self rfl)
      rcases ih h fun k hk => hks k (List.mem_cons_of_mem a (List.mem_cons_of_mem b hk)) with
        ⟨hs, hsame, rfl⟩
      exact ⟨b :: hs, .cons hb.symm hsame, by simp [carry_cons, hg, hunmarked]⟩
    | false =>
      rw [hg, if_neg Bool.false_ne_true] at h
      rcases List.map_eq_cons_iff.1 h with ⟨a, ks, rfl, ha, h⟩
      rcases ih h fun k hk => hks k (List.mem_cons_of_mem a hk) with ⟨hs, hsame, rfl⟩
      exact ⟨a :: hs, .cons ha.symm hsame, by simp [carry_cons, hg]⟩

/-! ## Two markings in one -/

/-- Both mark the same text, and the second one marks what the first one marks. -/
def Below : List Glyph → List Glyph → Prop :=
  List.Forall₂ fun g h => g.char = h.char ∧ (g.escaped = true → h.escaped = true)

/-- Both mark the same text, and no character of it is marked twice. -/
def Apart : List Glyph → List Glyph → Prop :=
  List.Forall₂ fun g h => g.char = h.char ∧ ¬ (g.escaped = true ∧ h.escaped = true)

/-- The marks of two markings of a text together. -/
def merge (gs hs : List Glyph) : List Glyph :=
  List.zipWith (fun g h => ⟨g.char, g.escaped || h.escaped⟩) gs hs

theorem merge_cons (g h : Glyph) (gs hs : List Glyph) :
    merge (g :: gs) (h :: hs) = ⟨g.char, g.escaped || h.escaped⟩ :: merge gs hs := rfl

theorem plain_merge {gs hs : List Glyph} (h : SameText gs hs) :
    plain (merge gs hs) = plain gs := by
  induction h with
  | nil => rfl
  | @cons g k gs hs _ _ ih => rw [merge_cons, plain_cons, plain_cons, ih]

theorem below_merge {gs hs : List Glyph} (h : SameText gs hs) :
    Below gs (merge gs hs) ∧ Below hs (merge gs hs) := by
  induction h with
  | nil => exact ⟨.nil, .nil⟩
  | @cons g k gs hs hk _ ih =>
    rw [merge_cons]
    refine ⟨.cons ⟨rfl, fun he => ?_⟩ ih.1, .cons ⟨hk.symm, fun he => ?_⟩ ih.2⟩
    · rw [he, Bool.true_or]
    · rw [he, Bool.or_true]

/-- Where a merged marking has a mark, one of the two has it. -/
theorem exists_of_mem_merge {gs hs : List Glyph} (h : SameText gs hs) {k : Glyph}
    (hk : k ∈ merge gs hs) (he : k.escaped = true) : k ∈ gs ∨ k ∈ hs := by
  induction h with
  | nil => cases hk
  | @cons g f gs hs hchar _ ih =>
    rw [merge_cons] at hk
    rcases List.mem_cons.1 hk with rfl | hk
    · rcases Bool.or_eq_true_iff.1 he with hg | hf
      · left
        rw [hg, Bool.true_or, ← hg]
        exact List.mem_cons_self
      · right
        rw [hf, Bool.or_true, ← hf, hchar]
        exact List.mem_cons_self
    · rcases ih hk with hk | hk
      · exact Or.inl (List.mem_cons_of_mem g hk)
      · exact Or.inr (List.mem_cons_of_mem f hk)

/-- Merged markings mark what one of the two marks. -/
theorem mem_positions_merge {gs hs : List Glyph} (h : SameText gs hs) {i : Nat} :
    i ∈ positions (merge gs hs) ↔ i ∈ positions gs ∨ i ∈ positions hs := by
  simp only [mem_positions]
  induction h generalizing i with
  | nil => simp [merge]
  | @cons g k gs hs _ _ ih =>
    rw [merge_cons]
    cases i with
    | zero => simp
    | succ i => simpa using ih

theorem Below.refl (gs : List Glyph) : Below gs gs :=
  List.forall₂_same.2 fun _ _ => ⟨rfl, id⟩

theorem Below.trans {gs hs ks : List Glyph} (h : Below gs hs) (h' : Below hs ks) :
    Below gs ks := by
  induction h generalizing ks with
  | nil => exact h'
  | cons hgh _ ih =>
    cases h' with
    | cons hhk hrest => exact .cons ⟨hgh.1.trans hhk.1, fun he => hhk.2 (hgh.2 he)⟩ (ih hrest)

theorem Below.sameText {gs hs : List Glyph} (h : Below gs hs) : SameText gs hs :=
  List.Forall₂.imp (fun _ _ hgh => hgh.1) h

theorem below_ofText_false (gs : List Glyph) : Below (ofText false (plain gs)) gs := by
  induction gs with
  | nil => exact .nil
  | cons g gs ih => exact .cons ⟨rfl, Bool.noConfusion⟩ ih

theorem Below.mem_positions {gs hs : List Glyph} (h : Below gs hs) {i : Nat}
    (hi : i ∈ positions gs) : i ∈ positions hs := by
  rw [Glyph.mem_positions] at hi ⊢
  induction h generalizing i with
  | nil => exact hi
  | cons hgk _ ih =>
    cases i with
    | zero => simpa using hgk.2 (by simpa using hi)
    | succ i => simpa using ih (by simpa using hi)

/-- A marking below another one is split where that one is split. -/
theorem Below.split {gs before behind : List Glyph} (h : Below gs (before ++ behind)) :
    ∃ before' behind', gs = before' ++ behind' ∧ Below before' before ∧ Below behind' behind := by
  refine ⟨gs.take before.length, gs.drop before.length, (List.take_append_drop ..).symm, ?_, ?_⟩
  · exact List.forall₂_take_append gs before behind h
  · exact List.forall₂_drop_append gs before behind h

/-- What is not marked is not marked below. -/
theorem Below.eq_of_unmarked {gs hs : List Glyph} (h : Below gs hs)
    (hhs : ∀ k ∈ hs, k.escaped = false) : gs = hs := by
  induction h with
  | nil => rfl
  | @cons g k gs hs hgk _ ih =>
    have hk := hhs k List.mem_cons_self
    have hg : g.escaped = false := by
      by_contra hne
      rw [hgk.2 (by simpa using hne)] at hk
      cases hk
    have hsame : g = k := by
      cases g
      cases k
      simp_all
    rw [hsame, ih fun k' hk' => hhs k' (List.mem_cons_of_mem k hk')]

/-- A marking below one with two unmarked runs has these runs too. -/
theorem Below.exists_parts {gs gs₁ gs₂ gs₃ : List Glyph} {d : Char} {n k : Nat}
    (h : Below gs (gs₁ ++
      (List.replicate n ⟨d, false⟩ ++ (gs₂ ++ (List.replicate k ⟨d, false⟩ ++ gs₃))))) :
    ∃ hs₁ hs₂ hs₃, gs = hs₁ ++
      (List.replicate n ⟨d, false⟩ ++ (hs₂ ++ (List.replicate k ⟨d, false⟩ ++ hs₃))) ∧
      Below hs₁ gs₁ ∧ Below hs₂ gs₂ ∧ Below hs₃ gs₃ := by
  rcases h.split with ⟨hs₁, rest, rfl, h₁, hrest⟩
  rcases hrest.split with ⟨first, rest, rfl, hfirst, hrest⟩
  rcases hrest.split with ⟨hs₂, rest, rfl, h₂, hrest⟩
  rcases hrest.split with ⟨second, hs₃, rfl, hsecond, h₃⟩
  rw [hfirst.eq_of_unmarked unmarked_of_mem_replicate,
    hsecond.eq_of_unmarked unmarked_of_mem_replicate]
  exact ⟨hs₁, hs₂, hs₃, rfl, h₁, h₂, h₃⟩

theorem Apart.sameText {gs hs : List Glyph} (h : Apart gs hs) : SameText gs hs :=
  List.Forall₂.imp (fun _ _ hgh => hgh.1) h

/-- Markings that go for different characters share no mark. -/
theorem apart_of_chars {gs hs : List Glyph} (h : SameText gs hs) {P : Char → Prop}
    (hgs : ∀ g ∈ gs, g.escaped = true → P g.char)
    (hhs : ∀ k ∈ hs, k.escaped = true → ¬ P k.char) : Apart gs hs := by
  induction h with
  | nil => exact .nil
  | @cons g k gs hs hk _ ih =>
    refine .cons ⟨hk, ?_⟩ (ih (fun g' hg' => hgs g' (List.mem_cons_of_mem g hg'))
      fun k' hk' => hhs k' (List.mem_cons_of_mem k hk'))
    rintro ⟨hg, he⟩
    have hP := hgs g List.mem_cons_self hg
    rw [hk] at hP
    exact hhs k List.mem_cons_self he hP

/-- Two markings share no mark if the second one has none where the first one has one. -/
theorem apart_of_split {gs hs : List Glyph} (h : SameText gs hs)
    (hfree : ∀ before g behind before' k behind', gs = before ++ g :: behind →
      hs = before' ++ k :: behind' → SameText before before' → SameText behind behind' →
      g.escaped = true → k.escaped = false) : Apart gs hs := by
  induction h with
  | nil => exact .nil
  | @cons g k gs hs hk hrest ih =>
    refine .cons ⟨hk, ?_⟩ (ih fun before f behind before' f' behind' hgs hhs hbefore hbehind he =>
      hfree (g :: before) f behind (k :: before') f' behind' (by rw [hgs, List.cons_append])
        (by rw [hhs, List.cons_append]) (.cons hk hbefore) hbehind he)
    rintro ⟨hg, he⟩
    rw [hfree [] g gs [] k hs rfl rfl .nil hrest hg] at he
    cases he

/-- Markings that share no mark are shown one after the other or as one. -/
theorem shown_merge {gs hs : List Glyph} (h : Apart gs hs) :
    shown (merge gs hs) = shown (carry gs hs) := by
  induction h with
  | nil => rfl
  | @cons g k gs hs hgk _ ih =>
    rcases hgk with ⟨hchar, hboth⟩
    rw [merge_cons, shown_cons, carry_cons, shown_append, ih]
    congr 1
    cases hg : g.escaped <;> cases hk : k.escaped
    all_goals simp_all [shown]

end Glyph

open Glyph

/-- Two steps make one if they go for different characters and the second one leaves backslashes
alone. -/
theorem Escapes.trans {A B text middle result : List Char} (h : Escapes A text middle)
    (h' : Escapes B middle result) (hAB : ∀ c ∈ A, c ∉ B) (hB : escapeMarker ∉ B) :
    Escapes (A ++ B) text result := by
  rcases h with ⟨gs, rfl, rfl, hgs⟩
  rcases h' with ⟨ks, hplain, rfl, hks⟩
  have hmarker : ∀ k ∈ ks, k.escaped = true → k.char ≠ escapeMarker := fun k hk he heq =>
    hB (heq ▸ hks k hk he)
  rcases exists_eq_carry hplain hmarker with ⟨hs, hsame, rfl⟩
  have hhs : ∀ k ∈ hs, k.escaped = true → k.char ∈ B := fun k hk he =>
    hks k (mem_carry hsame hk) he
  have hapart : Apart gs hs :=
    apart_of_chars hsame hgs fun k hk he hA => hAB k.char hA (hhs k hk he)
  refine ⟨merge gs hs, plain_merge hsame, shown_merge hapart, fun k hk he =>
    List.mem_append.2 ?_⟩
  rcases exists_of_mem_merge hsame hk he with hk | hk
  · exact Or.inl (hgs k hk he)
  · exact Or.inr (hhs k hk he)

end LiteralMarkdown
