import LiteralMarkdown.Proofs.Overlay

/-!
# No pair of delimiters remains

In the escaped text no rule for asterisks, tildes, backticks or two and more underscores matches any
more with all its delimiters unescaped, wherever the match is tried. Such delimiters were there
before backslashes were put in, with nothing else between them than is now, so that they were an
entity when the rule was applied; and wherever an entity begins, its first delimiter is marked.

* `Form.not_entity_of_spelled`: what is not marked encloses nothing that is an entity;
* `EscapeRule.Recognizes.exists_delimiter_marked`: the same said of matches;
* `exists_delimiter_escaped`: it holds of the four rules.
-/

namespace LiteralMarkdown

open Glyph EscapeRule

/-- The indices of the delimiters of a match in the text where it was found. -/
def Match.delimiterIndices (m : Match) (arity : Arity) : List Nat :=
  List.range' m.start m.opening.length ++
    List.range' (m.start + (m.text.length - (m.closing arity).length)) (m.closing arity).length

theorem Match.Encloses.delimiterIndices_eq {m : Match} {arity : Arity} {d : Char} {n k : Nat}
    {body : List Char} (h : m.Encloses arity d n k body) :
    m.delimiterIndices arity =
      List.range' m.start n ++ List.range' (m.start + (n + body.length)) k := by
  have hcut : m.text.length - k = n + body.length := by
    rw [h.text]
    simp only [List.length_append, List.length_replicate]
    omega
  rw [Match.delimiterIndices, h.opening, h.closing, List.length_replicate, List.length_replicate,
    hcut]

namespace Glyph

/-- A stretch is not marked if its positions are none of marked characters. -/
theorem unmarked_of_positions {gs before run behind : List Glyph}
    (hgs : gs = before ++ (run ++ behind)) {start n : Nat} (hstart : before.length = start)
    (hn : run.length = n) (h : ∀ i ∈ List.range' start n, i ∉ positions gs) :
    ∀ g ∈ run, g.escaped = false := by
  intro g hg
  by_contra he
  rcases List.mem_iff_getElem?.1 hg with ⟨j, hj⟩
  have hlt : j < run.length := (List.getElem?_eq_some_iff.1 hj).1
  refine h (start + j) (List.mem_range'_1.2 ⟨by omega, by omega⟩) ?_
  refine mem_positions.2 ⟨g, ?_, by simpa using he⟩
  rw [hgs, ← hstart, List.getElem?_append_right (by omega), Nat.add_sub_cancel_left,
    List.getElem?_append_left hlt, hj]

end Glyph

/-! ## Pairs that are not marked -/

/-- Unmarked delimiters enclose nothing that is an entity. The marks may be those on a text in which
backslashes had been put in before, for `first`. -/
theorem Form.not_entity_of_spelled {d : Char} {least : Nat} {hollow : Bool} {hleast : 0 < least}
    {first marks gs : List Glyph} (hd : d ≠ escapeMarker)
    (hmarking : (paired d least hollow hleast).Marking (shown first) (carry first marks))
    (hfirst : Below first gs) (hmarks : Below marks gs) {before body behind : List Glyph}
    {n k : Nat} (hgs : spelled gs = before ++
      (List.replicate n ⟨d, false⟩ ++ (body ++ (List.replicate k ⟨d, false⟩ ++ behind)))) :
    ¬ (paired d least hollow hleast).Entity n (plain body) k (plain behind) := by
  rintro ⟨hn, rfl, hbody, hempty⟩
  have hpos : 0 < k := Nat.lt_of_lt_of_le hleast hn
  rcases exists_parts_of_spelled hd hgs hpos (Or.inl hpos) with ⟨gs₁, gs₂, gs₃, rfl, -, rfl, -⟩
  rcases hfirst.exists_parts with ⟨fs₁, fs₂, fs₃, rfl, hf₁, hf₂, hf₃⟩
  rcases hmarks.exists_parts with ⟨ms₁, ms₂, ms₃, rfl, hm₁, hm₂, hm₃⟩
  rw [plain_spelled, mem_shown hd, ← hf₂.sameText.plain_eq] at hbody
  rw [plain_spelled, shown_eq_nil_iff, ← hf₂.sameText.plain_eq] at hempty
  have hsame₁ := hf₁.sameText.trans hm₁.sameText.symm
  have hsame₂ := hf₂.sameText.trans hm₂.sameText.symm
  rw [carry_append hsame₁, carry_parts (plain_replicate k d false) (plain_replicate k d false)
    hsame₂] at hmarking
  -- When the rule was applied, the delimiters enclosed what they enclose now.
  have hat : (paired d least hollow hleast).At
      (plain (List.replicate k ⟨d, false⟩ ++
        (carry fs₂ ms₂ ++ (List.replicate k ⟨d, false⟩ ++ carry fs₃ ms₃))))
      k (shown fs₂) k (plain (carry fs₃ ms₃)) := by
    refine ⟨?_, hn, rfl, ?_, fun h => hempty (shown_eq_nil_iff.1 h)⟩
    · rw [plain_append, plain_append, plain_append, plain_carry hsame₂]
      simp [plain, paired]
    · rw [mem_shown hd]
      exact hbody
  rcases Nat.exists_eq_add_one.2 hpos with ⟨j, rfl⟩
  rw [List.replicate_succ, List.cons_append] at hat
  have hmarked := hmarking.escaped_of_at solid_paired rfl hat
  cases hmarked

/-! ## Matches -/

/-- If no unmarked delimiters enclose an entity, then each match of the rule has a delimiter that is
marked. -/
theorem EscapeRule.Recognizes.exists_delimiter_marked {rule : EscapeRule} {form : Form}
    (h : rule.Recognizes form) {gs : List Glyph}
    (hnone : ∀ {before body behind : List Glyph} {n k : Nat}, gs = before ++
      (List.replicate n ⟨form.delimiter, false⟩ ++
        (body ++ (List.replicate k ⟨form.delimiter, false⟩ ++ behind))) →
      ¬ form.Entity n (plain body) k (plain behind))
    {before : List Char} (hbefore : before <+: plain gs) {e : Cursor}
    (he : e ∈ rule.pattern.ends ((Cursor.atStart (plain gs)).after before)) :
    ∃ i ∈ (((Cursor.atStart (plain gs)).after before).matchTo e).delimiterIndices rule.arity,
      i ∈ positions gs := by
  by_contra hmarked
  have hunmarked : ∀ i ∈ (((Cursor.atStart (plain gs)).after before).matchTo e).delimiterIndices
      rule.arity, i ∉ positions gs := fun i hi hmem => hmarked ⟨i, hi, hmem⟩
  rcases hbefore with ⟨ahead, hahead⟩
  rcases h.exists_at rfl he with ⟨n, body, k, hat, hencloses⟩
  rw [Cursor.after_rest (c := Cursor.atStart (plain gs)) hahead.symm] at hat
  rcases exists_split_of_plain hahead.symm with ⟨front, rest, hgs, hfront, hrest⟩
  rcases exists_parts_of_plain (hrest.trans hat.text_eq) with
    ⟨first, middle, second, behind, rfl, hfirst, hmiddle, hsecond, hbehind⟩
  have hstart : (((Cursor.atStart (plain gs)).after before).matchTo e).start = before.length := by
    simp [Cursor.matchTo, Cursor.atStart]
  rw [hencloses.delimiterIndices_eq, hstart, List.forall_mem_append] at hunmarked
  have hlengths : front.length = before.length ∧ first.length = n ∧ middle.length = body.length ∧
      second.length = k := by
    simp only [← length_plain, hfront, hfirst, hmiddle, hsecond, List.length_replicate, and_self]
  rcases hlengths with ⟨hf, hn, hm, hk⟩
  obtain rfl : first = List.replicate n ⟨form.delimiter, false⟩ :=
    eq_replicate_of_plain hfirst (unmarked_of_positions hgs hf hn hunmarked.1)
  obtain rfl : second = List.replicate k ⟨form.delimiter, false⟩ := by
    have hgs' : gs = (front ++ (List.replicate n ⟨form.delimiter, false⟩ ++ middle)) ++
        (second ++ behind) := by simp [hgs]
    refine eq_replicate_of_plain hsecond (unmarked_of_positions hgs' ?_ hk hunmarked.2)
    simp [hf, hm]
  refine hnone hgs ?_
  rw [hmiddle, hbehind]
  exact hat.entity

/-! ## The rules -/

section

variable {text : List Char} {strong gs : List Glyph}

/-- In the escaped text each match of the rule has a delimiter that is marked. -/
theorem Overlay.exists_delimiter_marked (h : Overlay text strong gs) {rule : EscapeRule} {d : Char}
    {least : Nat} {hollow : Bool} {hleast : 0 < least}
    (hrec : rule.Recognizes (.paired d least hollow hleast)) (hd : d ≠ escapeMarker)
    (hmarks : ∃ first marks, Below first gs ∧ Below marks gs ∧
      rule.marks (shown first) = carry first marks)
    {before : List Char} (hbefore : before <+: escapeAllDelimiters text) {e : Cursor}
    (he : e ∈ rule.pattern.ends ((Cursor.atStart (escapeAllDelimiters text)).after before)) :
    ∃ i ∈ (((Cursor.atStart (escapeAllDelimiters text)).after before).matchTo e).delimiterIndices
      rule.arity, i ∈ positions (spelled gs) := by
  rcases hmarks with ⟨first, marks, hfirst, hmarks, hcarry⟩
  have hmarking := hrec.marking (shown first)
  rw [hcarry] at hmarking
  rw [← h.escapesBy.shown_eq, ← plain_spelled] at hbefore he ⊢
  exact hrec.exists_delimiter_marked (fun hgs => Form.not_entity_of_spelled hd hmarking hfirst
    hmarks hgs) hbefore he

/-- A rule that marks the text itself. -/
theorem Overlay.exists_marks (h : Overlay text strong gs) {rule : EscapeRule}
    (hmem : rule ∈ EscapeRule.all) (hne : rule ≠ underscoreStrong) :
    ∃ first marks, Below first gs ∧ Below marks gs ∧
      rule.marks (shown first) = carry first marks := by
  have hbelow := h.below rule hmem hne
  have htext : Below (ofText false text) gs := h.escapesBy.plain_eq ▸ below_ofText_false gs
  refine ⟨ofText false text, rule.marks text, htext, hbelow, ?_⟩
  rw [shown_ofText_false, carry_of_unmarked (htext.sameText.trans hbelow.sameText.symm)]
  exact fun g hg => (mem_ofText.1 hg).2

end

/-- Asterisks, tildes, backticks and two or more underscores: wherever a rule for these is tried in
the escaped text, each of its matches has a delimiter before which a backslash has been put in. The
marking of the text that says where backslashes have been put in is settled by the two texts. -/
theorem exists_delimiter_escaped (text : List Char) :
    ∃ gs, (∀ hs, EscapesBy entityChars hs text (escapeAllDelimiters text) ↔ hs = gs) ∧
      ∀ rule ∈ [asteriskEmphasis, underscoreStrong, tildeStrikethrough, backtickCode],
        ∀ before, before <+: escapeAllDelimiters text →
          ∀ e ∈ rule.pattern.ends ((Cursor.atStart (escapeAllDelimiters text)).after before),
            ∃ i ∈ (((Cursor.atStart (escapeAllDelimiters text)).after before).matchTo
              e).delimiterIndices rule.arity, i ∈ positions (spelled gs) := by
  rcases exists_overlay text with ⟨strong, gs, h⟩
  refine ⟨gs, h.escapesBy_iff, ?_⟩
  simp only [List.forall_mem_cons, List.not_mem_nil, false_implies, implies_true, and_true]
  refine ⟨fun before hbefore e he => ?_, fun before hbefore e he => ?_,
    fun before hbefore e he => ?_, fun before hbefore e he => ?_⟩
  · exact h.exists_delimiter_marked recognizes_asteriskEmphasis (by decide)
      (h.exists_marks (by decide) (by decide)) hbefore he
  · have hstrong : underscoreStrong.marks (shown (underscoreEmphasis.marks text)) =
        carry (underscoreEmphasis.marks text) strong := by
      rw [underscoreEmphasis.shown_marks, h.strongMarks.marks_eq]
    exact h.exists_delimiter_marked recognizes_underscoreStrong (by decide)
      ⟨_, strong, h.below _ (by decide) (by decide), h.below_strong, hstrong⟩ hbefore he
  · exact h.exists_delimiter_marked recognizes_tildeStrikethrough (by decide)
      (h.exists_marks (by decide) (by decide)) hbefore he
  · exact h.exists_delimiter_marked recognizes_backtickCode (by decide)
      (h.exists_marks (by decide) (by decide)) hbefore he

end LiteralMarkdown
