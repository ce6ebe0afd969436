import LiteralMarkdown.Proofs.Forms.Blindness

/-!
# The order of the rules

Rules that do not see each other's backslashes can be applied in either order. All rules but the two
for underscores go for different characters, so these two are the only ones whose order matters: of
the orders in which the six rules can be applied, all that keep these two in order give the same
text.

* `EscapeRule.Recognizes.escapeDelimiters_comm`: rules with different delimiters commute;
* `foldl_eq_of_perm`: steps can be taken in any order if those that change places commute;
* `escapeAllDelimiters_of_order`: what order the six rules may have.
-/

namespace LiteralMarkdown

open Glyph EscapeRule

/-! ## Two rules -/

/-- The rules with the forms that they recognise. -/
def EscapeRule.withForms : List (EscapeRule × Form) :=
  [(asteriskEmphasis, .paired '*' 1 false Nat.one_pos), (underscoreEmphasis, .underscored),
    (underscoreStrong, .paired '_' 2 false Nat.two_pos),
    (tildeStrikethrough, .paired '~' 1 false Nat.one_pos),
    (backtickCode, .paired '\x60' 1 true Nat.one_pos), (bracketLink, .bracketed)]

theorem EscapeRule.recognizes_of_mem_withForms :
    ∀ p ∈ withForms, p.1.Recognizes p.2 ∧ p.2.Blind ∧ p.2.delimiter ∈ entityChars := by
  simp only [withForms, List.forall_mem_cons, List.not_mem_nil, false_implies, implies_true,
    and_true]
  exact ⟨⟨recognizes_asteriskEmphasis, Form.blind_paired (by decide), by decide⟩,
    ⟨recognizes_underscoreEmphasis, Form.blind_underscored, by decide⟩,
    ⟨recognizes_underscoreStrong, Form.blind_paired (by decide), by decide⟩,
    ⟨recognizes_tildeStrikethrough, Form.blind_paired (by decide), by decide⟩,
    ⟨recognizes_backtickCode, Form.blind_paired (by decide), by decide⟩,
    ⟨recognizes_bracketLink, Form.blind_bracketed, by decide⟩⟩

/-- Apart from the two for underscores no two rules have one delimiter. -/
theorem EscapeRule.delimiter_ne_of_ne : ∀ p ∈ withForms, ∀ q ∈ withForms, p.1 ≠ q.1 →
    ¬ [p.1, q.1].Perm [underscoreEmphasis, underscoreStrong] →
    p.2.delimiter ≠ q.2.delimiter := by
  decide

namespace EscapeRule.Recognizes

variable {a b : EscapeRule} {f g : Form}

theorem plain_marks (ha : a.Recognizes f) (text : List Char) : plain (a.marks text) = text :=
  (ha.marking text).plain_eq

/-- The marks of a rule are none that another form minds, if that has another delimiter. -/
theorem spares (ha : a.Recognizes f) (hmem : f.delimiter ∈ entityChars)
    (hne : f.delimiter ≠ g.delimiter) (text : List Char) : g.Spares (a.marks text) := by
  intro k hk he
  rw [(ha.marking text).char_eq hk he]
  exact ⟨hmem, hne⟩

/-- What a rule makes of an escaped text is the text with both kinds of marks. -/
theorem escapeDelimiters_shown (ha : a.Recognizes f) (hf : f.Blind) {gs : List Glyph}
    (hgs : f.Spares gs) :
    escapeDelimiters a (shown gs) = shown (carry gs (a.marks (plain gs))) := by
  rw [← a.shown_marks, ha.marks_shown hf hgs]

/-- Rules with different delimiters commute. -/
theorem escapeDelimiters_comm (ha : a.Recognizes f) (hb : b.Recognizes g) (hf : f.Blind)
    (hg : g.Blind) (hmemf : f.delimiter ∈ entityChars) (hmemg : g.delimiter ∈ entityChars)
    (hne : f.delimiter ≠ g.delimiter) (text : List Char) :
    escapeDelimiters a (escapeDelimiters b text) =
      escapeDelimiters b (escapeDelimiters a text) := by
  have hsame : SameText (b.marks text) (a.marks text) :=
    sameText_iff.2 ((hb.plain_marks text).trans (ha.plain_marks text).symm)
  calc escapeDelimiters a (escapeDelimiters b text)
      = escapeDelimiters a (shown (b.marks text)) := by rw [b.shown_marks]
    _ = shown (carry (b.marks text) (a.marks text)) := by
        rw [ha.escapeDelimiters_shown hf (hb.spares hmemg hne.symm text), hb.plain_marks]
    _ = shown (carry (a.marks text) (b.marks text)) := shown_carry_comm hsame
    _ = escapeDelimiters b (shown (a.marks text)) := by
        rw [hb.escapeDelimiters_shown hg (ha.spares hmemf hne text), ha.plain_marks]
    _ = escapeDelimiters b (escapeDelimiters a text) := by rw [a.shown_marks]

end EscapeRule.Recognizes

theorem exists_form_of_mem_all {rule : EscapeRule} (h : rule ∈ EscapeRule.all) :
    ∃ form, (rule, form) ∈ withForms := by
  have hall : EscapeRule.all = withForms.map Prod.fst := rfl
  rw [hall] at h
  rcases List.mem_map.1 h with ⟨⟨_, form⟩, hmem, rfl⟩
  exact ⟨form, hmem⟩

/-- Two rules commute unless they are the two for underscores. -/
theorem escapeDelimiters_comm_of_mem_all {a b : EscapeRule} (ha : a ∈ EscapeRule.all)
    (hb : b ∈ EscapeRule.all) (hne : a ≠ b)
    (hpair : ¬ [a, b].Perm [underscoreEmphasis, underscoreStrong]) (text : List Char) :
    escapeDelimiters a (escapeDelimiters b text) =
      escapeDelimiters b (escapeDelimiters a text) := by
  rcases exists_form_of_mem_all ha with ⟨f, hf⟩
  rcases exists_form_of_mem_all hb with ⟨g, hg⟩
  rcases recognizes_of_mem_withForms _ hf with ⟨hrecf, hblindf, hmemf⟩
  rcases recognizes_of_mem_withForms _ hg with ⟨hrecg, hblindg, hmemg⟩
  have hdelim := delimiter_ne_of_ne _ hf _ hg hne hpair
  exact hrecf.escapeDelimiters_comm hrecg hblindf hblindg hmemf hmemg hdelim text

/-! ## Steps that change places -/

/-- A step can be taken first if it commutes with all that come before it. -/
theorem foldl_append_cons {α β : Type} {f : β → α → β} {a : α} {before : List α}
    (h : ∀ b ∈ before, ∀ x, f (f x b) a = f (f x a) b) (behind : List α) (x : β) :
    (before ++ a :: behind).foldl f x = (before ++ behind).foldl f (f x a) := by
  induction before generalizing x with
  | nil => rfl
  | cons b before ih =>
    have hfirst := h b List.mem_cons_self x
    have hrest := ih (fun c hc => h c (List.mem_cons_of_mem b hc)) (f x b)
    rw [List.cons_append, List.foldl_cons, hrest, hfirst]
    rfl

/-- Steps can be taken in any order, if those that change places commute. -/
theorem foldl_eq_of_perm {α β : Type} {f : β → α → β} {l l' : List α} (hperm : l.Perm l')
    (hcomm : ∀ a b, [a, b].Sublist l → [b, a].Sublist l' → ∀ x, f (f x b) a = f (f x a) b)
    (x : β) : l.foldl f x = l'.foldl f x := by
  induction l generalizing l' x with
  | nil => rw [hperm.nil_eq]
  | cons a l ih =>
    rcases List.append_of_mem (hperm.mem_iff.1 List.mem_cons_self) with ⟨before, behind, rfl⟩
    have hrest : l.Perm (before ++ behind) :=
      (List.perm_cons a).1 (hperm.trans List.perm_middle)
    -- The first step of `l` is moved to the front of `l'`: what it passes comes behind it in `l`.
    have hfront : ∀ b ∈ before, ∀ y, f (f y b) a = f (f y a) b := by
      intro b hb
      have hmem : b ∈ l := hrest.mem_iff.2 (List.mem_append_left behind hb)
      refine hcomm a b ((List.singleton_sublist.2 hmem).cons_cons a) ?_
      exact (List.singleton_sublist.2 hb).append (List.singleton_sublist.2 List.mem_cons_self)
    rw [foldl_append_cons hfront, List.foldl_cons]
    refine ih hrest (fun b c hbc hcb => ?_) (f x a)
    refine hcomm b c (hbc.cons a) (hcb.trans ?_)
    exact (List.Sublist.refl before).append (List.sublist_cons_self a behind)

/-- In a list without repetitions no two members come one before the other both ways. -/
theorem not_sublist_swap {α : Type} {l : List α} {a b : α} (hnodup : l.Nodup)
    (h : [a, b].Sublist l) : ¬ [b, a].Sublist l := by
  intro h'
  induction l with
  | nil => cases h
  | cons c l ih =>
    rcases List.nodup_cons.1 hnodup with ⟨hc, hnodup⟩
    cases h with
    | cons _ h =>
      cases h' with
      | cons _ h' => exact ih hnodup h h'
      | cons_cons _ _ => exact hc (h.subset (by simp))
    | cons_cons _ hb =>
      cases h' with
      | cons _ h' => exact hc (h'.subset (by simp))
      | cons_cons _ _ => exact hc (hb.subset (by simp))

/-! ## Six rules -/

/-- The order of the rules matters for those two only that go for underscores: any other two
commute, and the six rules give the same text in each order that has these two in the order
given. -/
theorem escapeAllDelimiters_of_order (text : List Char) :
    (∀ a ∈ EscapeRule.all, ∀ b ∈ EscapeRule.all, a ≠ b →
      ¬ [a, b].Perm [underscoreEmphasis, underscoreStrong] →
      escapeDelimiters a (escapeDelimiters b text) =
        escapeDelimiters b (escapeDelimiters a text)) ∧
    ∀ rules : List EscapeRule, rules.Perm EscapeRule.all →
      [underscoreEmphasis, underscoreStrong].Sublist rules →
      rules.foldl (fun text rule => escapeDelimiters rule text) text =
        escapeAllDelimiters text := by
  refine ⟨fun a ha b hb hne hpair => escapeDelimiters_comm_of_mem_all ha hb hne hpair text, ?_⟩
  intro rules hperm hkept
  have hnodup : EscapeRule.all.Nodup := by decide
  refine foldl_eq_of_perm hperm (fun a b hab hba text => ?_) text
  have ha : a ∈ EscapeRule.all := hba.subset (by simp)
  have hb : b ∈ EscapeRule.all := hba.subset (by simp)
  have hne : a ≠ b := by
    rintro rfl
    exact not_sublist_swap hnodup hba hba
  refine escapeDelimiters_comm_of_mem_all ha hb hne (fun hpair => ?_) text
  -- The two rules for underscores are in one order in both lists.
  have hall : [underscoreEmphasis, underscoreStrong].Sublist EscapeRule.all := by decide
  have ha' : a = underscoreEmphasis ∨ a = underscoreStrong := by
    simpa using hpair.subset (a := a) (by simp)
  have hb' : b = underscoreEmphasis ∨ b = underscoreStrong := by
    simpa using hpair.subset (a := b) (by simp)
  rcases ha' with rfl | rfl
  · rcases hb' with rfl | rfl
    · exact hne rfl
    · exact not_sublist_swap hnodup hall hba
  · rcases hb' with rfl | rfl
    · exact not_sublist_swap (hperm.nodup_iff.2 hnodup) hkept hab
    · exact hne rfl

/-- The order of the two rules for underscores does matter. -/
example :
    escapeDelimiters underscoreEmphasis (escapeDelimiters underscoreStrong "__a__".toList) ≠
      escapeDelimiters underscoreStrong (escapeDelimiters underscoreEmphasis "__a__".toList) := by
  decide

end LiteralMarkdown
