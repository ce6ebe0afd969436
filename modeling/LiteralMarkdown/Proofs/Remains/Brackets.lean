import LiteralMarkdown.Proofs.Overlay

/-!
# Opening brackets that remain

The rule for brackets takes everything up to the next closing bracket, and so it takes in opening
brackets that stand between the two. These are passed over with it. An opening bracket is escaped
just if a closing one follows it, no caret comes next and no other opening bracket takes it in.

* `Form.Marking.mem_positions_iff`: which brackets the form for brackets marks;
* `bracket_escaped_iff`: which brackets are escaped in the end.
-/

namespace LiteralMarkdown

open Glyph EscapeRule

namespace Glyph

theorem succ_mem_positions {g : Glyph} {gs : List Glyph} {i : Nat} :
    i + 1 ∈ positions (g :: gs) ↔ i ∈ positions gs := by simp [mem_positions]

theorem mem_positions_append {gs hs : List Glyph} {i : Nat} :
    gs.length + i ∈ positions (gs ++ hs) ↔ i ∈ positions hs := by
  rw [mem_positions, mem_positions, List.getElem?_append_right (by omega), Nat.add_sub_cancel_left]

end Glyph

/-- What lies behind an opening bracket makes it the beginning of an entity. -/
def OpensLink (behind : List Char) : Prop := behind.head? ≠ some '^' ∧ ']' ∈ behind

/-- What lies before an opening bracket ends with another one and something that is neither closed
nor begins with a caret. -/
def TakenIn (before : List Char) : Prop :=
  ∃ front inner, before = front ++ '[' :: inner ∧ ']' ∉ inner ∧ inner.head? ≠ some '^'

theorem not_takenIn_nil : ¬ TakenIn [] := by
  rintro ⟨front, inner, h, -⟩
  simp at h

theorem TakenIn.append {before : List Char} (h : TakenIn before) (first : List Char) :
    TakenIn (first ++ before) := by
  rcases h with ⟨front, inner, rfl, hinner, hcaret⟩
  exact ⟨first ++ front, inner, by rw [List.append_assoc], hinner, hcaret⟩

/-- Nothing reaches beyond a closing bracket. -/
theorem takenIn_append_iff (first : List Char) {before : List Char} :
    TakenIn (first ++ ']' :: before) ↔ TakenIn before := by
  constructor
  · rintro ⟨front, inner, h, hinner, hcaret⟩
    rcases split_append h with ⟨rest, -, hbehind⟩ | ⟨front', h', -⟩
    · exact absurd (hbehind ▸ by simp) hinner
    · cases front' with
      | nil => exact absurd (List.cons.inj h').1 (by decide)
      | cons a front' => exact ⟨front', inner, (List.cons.inj h').2, hinner, hcaret⟩
  · intro h
    have hclosed := h.append (first ++ [']'])
    rwa [List.append_assoc] at hclosed

/-- A bracket that a bracket before it takes in shares its closing bracket with that one. -/
theorem opensLink_append {inner behind : List Char} (hcaret : inner.head? ≠ some '^')
    (h : ']' ∈ behind) : OpensLink (inner ++ '[' :: behind) := by
  refine ⟨?_, by simp [h]⟩
  rw [List.head?_append]
  cases inner with
  | nil => simp
  | cons a inner => exact hcaret

namespace Form

theorem opensLink_iff {inner behind : List Char} :
    OpensLink (inner ++ ']' :: behind) ↔ (inner ++ [']']).head? ≠ some '^' := by
  simp [OpensLink, List.head?_append]

theorem not_opensLink_of_absent {rest : List Char} (h : bracketed.Absent ('[' :: rest)) :
    ¬ OpensLink rest := by
  intro hopens
  rcases List.eq_append_cons_of_mem hopens.2 with ⟨inner, behind, rfl, hinner⟩
  exact h 1 (inner ++ [']']) 0 behind
    ⟨by simp [bracketed], rfl, rfl, opensLink_iff.1 hopens, inner, rfl, hinner⟩

/-! ### The marks of an entity and what lies behind it -/

theorem zero_mem_positions_marked (body : List Char) (gs : List Glyph) :
    0 ∈ positions (bracketed.marked 1 body 0 ++ gs) := by
  simp [mem_positions, marked]

theorem not_mem_positions_marked {body : List Char} {i : Nat} (hi : i < body.length)
    (gs : List Glyph) : i + 1 ∉ positions (bracketed.marked 1 body 0 ++ gs) := by
  intro h
  rw [marked, List.replicate_one, List.append_assoc, List.singleton_append, succ_mem_positions,
    mem_positions] at h
  rcases h with ⟨g, hg, he⟩
  rw [List.append_assoc, List.getElem?_append_left (by simpa [ofText] using hi)] at hg
  rw [(mem_ofText.1 (List.mem_of_getElem? hg)).2] at he
  cases he

theorem mem_positions_behind_marked (body : List Char) (gs : List Glyph) (i : Nat) :
    body.length + i + 1 ∈ positions (bracketed.marked 1 body 0 ++ gs) ↔ i ∈ positions gs := by
  have hlen : body.length + i + 1 = (bracketed.marked 1 body 0).length + i := by
    simp [marked, ofText]
    omega
  rw [hlen, mem_positions_append]

/-- An opening bracket is marked if it can begin an entity and lies in no other one. -/
theorem Marking.mem_positions_iff {text : List Char} {gs : List Glyph}
    (h : bracketed.Marking text gs) {before behind : List Char}
    (htext : text = before ++ '[' :: behind) :
    before.length ∈ positions gs ↔ OpensLink behind ∧ ¬ TakenIn before := by
  induction h generalizing before with
  | stop => simp at htext
  | @skip a rest gs hnone next ih =>
    cases before with
    | nil =>
      rcases List.cons.inj htext with ⟨rfl, rfl⟩
      simp [mem_positions, not_opensLink_of_absent hnone]
    | cons b before =>
      rcases List.cons.inj htext with ⟨rfl, rfl⟩
      rw [List.length_cons, succ_mem_positions, ih rfl]
      refine and_congr_right fun hopens => not_congr ⟨fun h => h.append [a], ?_⟩
      rintro ⟨front, inner, hfront, hinner, hcaret⟩
      cases front with
      | nil =>
        -- The character that is skipped would begin an entity that takes in the bracket.
        rcases List.cons.inj hfront with ⟨rfl, rfl⟩
        exact absurd (opensLink_append hcaret hopens.2) (not_opensLink_of_absent hnone)
      | cons c front => exact ⟨front, inner, (List.cons.inj hfront).2, hinner, hcaret⟩
  | @take text body behind' n k gs hat hmost next ih =>
    rcases hat with ⟨hat, rfl, rfl, hcaret, inner, rfl, hinner⟩
    have hparts : '[' :: (inner ++ ']' :: behind') = before ++ '[' :: behind := by
      rw [← htext, hat]
      simp [bracketed]
    cases before with
    | nil =>
      -- The bracket opens the entity.
      rcases List.cons.inj hparts with ⟨-, rfl⟩
      exact iff_of_true (zero_mem_positions_marked _ gs)
        ⟨opensLink_iff.2 hcaret, not_takenIn_nil⟩
    | cons b before =>
      rcases List.cons.inj hparts with ⟨rfl, hrest⟩
      rcases split_append hrest with ⟨rest, rfl, -⟩ | ⟨front, hfront, rfl⟩
      · -- The bracket lies in the entity.
        have htaken : TakenIn ('[' :: before) := by
          refine ⟨[], before, rfl, fun h => hinner (List.mem_append_left _ h), fun h => ?_⟩
          simp [h] at hcaret
        exact iff_of_false (not_mem_positions_marked (by simp) gs) fun h => h.2 htaken
      · -- The bracket lies behind the entity.
        cases front with
        | nil => exact absurd (List.cons.inj hfront).1 (by decide)
        | cons c front =>
          rcases List.cons.inj hfront with ⟨rfl, rfl⟩
          have hlen : ('[' :: (inner ++ ']' :: front)).length =
              (inner ++ [']']).length + front.length + 1 := by
            simp
            omega
          have hclosed : TakenIn ('[' :: (inner ++ ']' :: front)) ↔ TakenIn front :=
            takenIn_append_iff ('[' :: inner)
          rw [hlen, mem_positions_behind_marked, ih rfl, hclosed]

end Form

/-- In the end, an opening bracket is escaped just if it can begin an entity and no bracket before
it takes it in. -/
theorem bracket_escaped_iff (text : List Char) :
    ∃ gs, (∀ hs, EscapesBy entityChars hs text (escapeAllDelimiters text) ↔ hs = gs) ∧
      ∀ before behind, text = before ++ '[' :: behind →
        (before.length ∈ positions gs ↔ OpensLink behind ∧ ¬ TakenIn before) := by
  rcases exists_overlay text with ⟨strong, gs, h⟩
  refine ⟨gs, h.escapesBy_iff, fun before behind htext => ?_⟩
  have hmem : (bracketLink, Form.bracketed) ∈ withForms := by simp [withForms]
  have hchar : text[before.length]? = some '[' := by simp [htext]
  rw [h.mem_positions_iff hmem (by decide) hchar]
  exact (recognizes_bracketLink.marking text).mem_positions_iff htext

/-- So an opening bracket of a link can remain: the first bracket of `[[a](b)` takes in the second
one, which is left as it is. -/
theorem exists_bracket_remaining : ¬ ∀ text : List Char, escapeMarker ∉ text →
    ∃ gs, EscapesBy entityChars gs text (escapeAllDelimiters text) ∧
      ∀ before behind, text = before ++ '[' :: behind → behind.head? ≠ some '^' →
        ']' ∈ behind → before.length ∈ positions gs := by
  intro hall
  rcases hall "[[a](b)".toList (by decide) with ⟨gs, hgs, hescaped⟩
  have hfirst : EscapesBy entityChars (⟨'[', true⟩ :: ofText false "[a](b)".toList)
      "[[a](b)".toList (escapeAllDelimiters "[[a](b)".toList) :=
    ⟨by decide, by decide, by decide⟩
  rw [hgs.unique (by decide) hfirst] at hescaped
  exact absurd (hescaped ['['] "a](b)".toList (by decide) (by decide) (by decide)) (by decide)

end LiteralMarkdown
