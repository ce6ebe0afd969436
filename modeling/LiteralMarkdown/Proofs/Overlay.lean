import LiteralMarkdown.Proofs.Order

/-!
# The marks of all rules

What the six rules do to a text, one after the other, is to put in the backslashes of one marking of
the text. This marking puts together what each rule marks in the text itself, apart from the second
rule for underscores: of the others' backslashes this rule sees those that the first one for
underscores has put in.

* `exists_merged`: rules with different delimiters, one after the other, mark what each one marks in
  the text;
* `exists_overlay`: the marking of the six rules.
-/

namespace LiteralMarkdown

open Glyph EscapeRule

/-! ## Rules with different delimiters -/

/-- A rule marks the text itself, whatever rules with other delimiters have put in before. -/
theorem EscapeRule.Recognizes.shown_merge_marks {rule : EscapeRule} {form : Form}
    (h : rule.Recognizes form) (hblind : form.Blind) {gs : List Glyph} (hgs : form.Spares gs) :
    shown (merge gs (rule.marks (plain gs))) = escapeDelimiters rule (shown gs) := by
  have hsame : SameText gs (rule.marks (plain gs)) := sameText_iff.2 (h.plain_marks _).symm
  have hapart : Apart gs (rule.marks (plain gs)) :=
    apart_of_chars hsame (P := (· ≠ form.delimiter)) hgs.char_ne fun k hk he =>
      not_not.2 ((h.marking _).char_eq hk he)
  rw [shown_merge hapart, h.escapeDelimiters_shown hblind hgs]

/-- Where a rule has a mark, the text has its delimiter. -/
theorem EscapeRule.Recognizes.getElem?_of_mem_positions {rule : EscapeRule} {form : Form}
    (h : rule.Recognizes form) {text : List Char} {i : Nat}
    (hi : i ∈ positions (rule.marks text)) : text[i]? = some form.delimiter := by
  have hchar := Glyph.getElem?_of_mem_positions (fun _ => (h.marking text).char_eq) hi
  rwa [h.plain_marks] at hchar

/-- Rules with different delimiters, one after the other, mark what was marked and what each of them
marks in the text. -/
theorem exists_merged {rules : List (EscapeRule × Form)} (hrules : ∀ p ∈ rules, p ∈ withForms)
    (hdistinct : rules.Pairwise fun p q => p.2.delimiter ≠ q.2.delimiter) {gs : List Glyph}
    (hgs : ∀ p ∈ rules, p.2.Spares gs) :
    ∃ ks, shown ks = rules.foldl (fun text p => escapeDelimiters p.1 text) (shown gs) ∧
      Below gs ks ∧ (∀ p ∈ rules, Below (p.1.marks (plain gs)) ks) ∧
      ∀ i ∈ positions ks, i ∈ positions gs ∨ ∃ p ∈ rules, i ∈ positions (p.1.marks (plain gs)) := by
  induction rules generalizing gs with
  | nil => exact ⟨gs, rfl, .refl gs, by simp, fun i hi => Or.inl hi⟩
  | cons p rules ih =>
    rcases recognizes_of_mem_withForms p (hrules p List.mem_cons_self) with ⟨hrec, hblind, hmem⟩
    rcases List.pairwise_cons.1 hdistinct with ⟨hfirst, hdistinct⟩
    have hsame : SameText gs (p.1.marks (plain gs)) := sameText_iff.2 (hrec.plain_marks _).symm
    have hplain := plain_merge hsame
    have hspares : ∀ q ∈ rules, q.2.Spares (merge gs (p.1.marks (plain gs))) := by
      intro q hq g hg he
      rcases exists_of_mem_merge hsame hg he with hg | hg
      · exact hgs q (List.mem_cons_of_mem p hq) g hg he
      · exact hrec.spares hmem (hfirst q hq) _ g hg he
    rcases ih (fun q hq => hrules q (List.mem_cons_of_mem p hq)) hdistinct hspares with
      ⟨ks, hshown, hbelow, hmarks, honly⟩
    rw [hplain] at hmarks honly
    rw [hrec.shown_merge_marks hblind (hgs p List.mem_cons_self)] at hshown
    rcases below_merge hsame with ⟨hgs', hp⟩
    refine ⟨ks, hshown, hgs'.trans hbelow, ?_, fun i hi => ?_⟩
    · exact List.forall_mem_cons.2 ⟨hp.trans hbelow, hmarks⟩
    · rcases honly i hi with hi | ⟨q, hq, hi⟩
      · rcases (mem_positions_merge hsame).1 hi with hi | hi
        · exact Or.inl hi
        · exact Or.inr ⟨p, List.mem_cons_self, hi⟩
      · exact Or.inr ⟨q, List.mem_cons_of_mem p hq, hi⟩

/-! ## All rules -/

/-- The marking that the six rules leave on a text, put together from those of the single rules. -/
structure Overlay (text : List Char) (strong gs : List Glyph) : Prop where
  escapesBy : EscapesBy entityChars gs text (escapeAllDelimiters text)
  strongMarks : StrongMarks text strong
  below_strong : Below strong gs
  below : ∀ rule ∈ EscapeRule.all, rule ≠ underscoreStrong → Below (rule.marks text) gs
  only : ∀ i ∈ positions gs, i ∈ positions strong ∨
    ∃ rule ∈ EscapeRule.all, rule ≠ underscoreStrong ∧ i ∈ positions (rule.marks text)

/-- The rules that do not go for underscores, with their forms. -/
def EscapeRule.withOtherForms : List (EscapeRule × Form) :=
  withForms.filter fun p => p.2.delimiter ≠ '_'

/-- The two rules for underscores can be taken first. -/
theorem escapeAllDelimiters_eq (text : List Char) :
    escapeAllDelimiters text = withOtherForms.foldl (fun text p => escapeDelimiters p.1 text)
      (escapeDelimiters underscoreStrong (escapeDelimiters underscoreEmphasis text)) := by
  have hcomm : ∀ a ∈ [underscoreEmphasis, underscoreStrong], ∀ text,
      escapeDelimiters a (escapeDelimiters asteriskEmphasis text) =
        escapeDelimiters asteriskEmphasis (escapeDelimiters a text) := by
    simp only [List.forall_mem_cons, List.not_mem_nil, false_implies, implies_true, and_true]
    exact ⟨escapeDelimiters_comm_of_mem_all (by decide) (by decide) (by decide) (by decide),
      escapeDelimiters_comm_of_mem_all (by decide) (by decide) (by decide) (by decide)⟩
  have hothers : withOtherForms.map Prod.fst =
      [asteriskEmphasis, tildeStrikethrough, backtickCode, bracketLink] := by decide
  have hfold (text : List Char) :
      withOtherForms.foldl (fun text p => escapeDelimiters p.1 text) text =
        (withOtherForms.map Prod.fst).foldl (fun text rule => escapeDelimiters rule text) text := by
    rw [List.foldl_map]
  rw [hfold, hothers]
  simp only [escapeAllDelimiters, EscapeRule.all, List.foldl_cons, List.foldl_nil]
  rw [hcomm underscoreEmphasis (by simp), hcomm underscoreStrong (by simp)]

/-- The six rules leave a marking that is put together from those of the single rules. -/
theorem exists_overlay (text : List Char) : ∃ strong gs, Overlay text strong gs := by
  rcases exists_strongMarks text with ⟨strong, hstrong⟩
  have hsame := hstrong.apart.sameText
  rcases below_merge hsame with ⟨hbelow₁, hbelow₂⟩
  have hplain := (plain_merge hsame).trans (recognizes_underscoreEmphasis.plain_marks text)
  have hothers : ∀ p ∈ withOtherForms, p ∈ withForms := fun p hp => List.mem_of_mem_filter hp
  have hspares : ∀ p ∈ withOtherForms,
      p.2.Spares (merge (underscoreEmphasis.marks text) strong) := by
    intro p hp g hg he
    have hne : p.2.delimiter ≠ '_' := by simpa using List.of_mem_filter hp
    rw [hstrong.char_merge g hg he]
    exact ⟨by decide, hne.symm⟩
  rcases exists_merged hothers (by decide) hspares with ⟨gs, hresult, hbelow, hmarks, honly⟩
  rw [hplain] at hmarks honly
  rw [hstrong.shown_merge, ← escapeAllDelimiters_eq] at hresult
  have htext : plain gs = text := hbelow.sameText.plain_eq.symm.trans hplain
  refine ⟨strong, gs, ⟨htext, hresult, fun g hg he => ?_⟩, hstrong, hbelow₂.trans hbelow, ?_, ?_⟩
  · rcases List.mem_iff_getElem?.1 hg with ⟨i, hi⟩
    have hgi : text[i]? = some g.char := by rw [← htext, plain, List.getElem?_map, hi]; rfl
    rcases honly i (mem_positions.2 ⟨g, hi, he⟩) with hmem | ⟨p, hp, hmem⟩
    · have hunderscore := getElem?_of_mem_positions hstrong.char_merge hmem
      rw [hplain, hgi] at hunderscore
      rw [Option.some.inj hunderscore]
      decide
    · rcases recognizes_of_mem_withForms p (hothers p hp) with ⟨hrec, -, hdelim⟩
      have hdelimiter := hrec.getElem?_of_mem_positions hmem
      rw [hgi] at hdelimiter
      rw [Option.some.inj hdelimiter]
      exact hdelim
  · have hmem : ∀ rule ∈ EscapeRule.all, rule ≠ underscoreStrong →
        rule = underscoreEmphasis ∨ rule ∈ withOtherForms.map Prod.fst := by decide
    intro rule hrule hne
    rcases hmem rule hrule hne with rfl | hrule
    · exact hbelow₁.trans hbelow
    · rcases List.mem_map.1 hrule with ⟨p, hp, rfl⟩
      exact hmarks p hp
  · have hmem : ∀ p ∈ withOtherForms, p.1 ∈ EscapeRule.all ∧ p.1 ≠ underscoreStrong := by decide
    intro i hi
    rcases honly i hi with hi | ⟨p, hp, hi⟩
    · rcases (mem_positions_merge hsame).1 hi with hi | hi
      · exact Or.inr ⟨underscoreEmphasis, by decide, by decide, hi⟩
      · exact Or.inl hi
    · exact Or.inr ⟨p.1, (hmem p hp).1, (hmem p hp).2, hi⟩

/-- A character that is no underscore is marked just if the rule that goes for it marks it in the
text. -/
theorem Overlay.mem_positions_iff {text : List Char} {strong gs : List Glyph}
    (h : Overlay text strong gs) {rule : EscapeRule} {form : Form}
    (hrule : (rule, form) ∈ withForms) (hne : form.delimiter ≠ '_') {i : Nat}
    (hi : text[i]? = some form.delimiter) :
    i ∈ positions gs ↔ i ∈ positions (rule.marks text) := by
  have hother : ∀ p ∈ withForms, p.2.delimiter ≠ '_' →
      p.1 ∈ EscapeRule.all ∧ p.1 ≠ underscoreStrong := by decide
  have honly : ∀ p ∈ withForms, ∀ q ∈ withForms, p.2.delimiter ≠ '_' →
      q.2.delimiter = p.2.delimiter → q.1 = p.1 := by decide
  constructor
  · intro hmem
    rcases h.only i hmem with hmem | ⟨rule', hrule', -, hmem⟩
    · have hunderscore := getElem?_of_mem_positions h.strongMarks.char_eq hmem
      rw [h.strongMarks.plain_eq, hi] at hunderscore
      exact absurd (Option.some.inj hunderscore) hne
    · rcases exists_form_of_mem_all hrule' with ⟨form', hform'⟩
      rcases recognizes_of_mem_withForms _ hform' with ⟨hrec, -, -⟩
      have hdelimiter := hrec.getElem?_of_mem_positions hmem
      rw [hi] at hdelimiter
      have hsame : rule' = rule := honly _ hrule _ hform' hne (Option.some.inj hdelimiter).symm
      exact hsame ▸ hmem
  · rcases hother _ hrule hne with ⟨hall, hstrong⟩
    exact (h.below rule hall hstrong).mem_positions

/-- The text and the escaped text settle this marking. -/
theorem Overlay.escapesBy_iff {text : List Char} {strong gs : List Glyph}
    (h : Overlay text strong gs) (hs : List Glyph) :
    EscapesBy entityChars hs text (escapeAllDelimiters text) ↔ hs = gs := by
  constructor
  · intro hhs
    exact hhs.unique (by decide) h.escapesBy
  · rintro rfl
    exact h.escapesBy

end LiteralMarkdown
