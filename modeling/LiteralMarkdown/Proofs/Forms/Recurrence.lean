import LiteralMarkdown.Proofs.Overlay

/-!
# Escaped entities are entities

A backslash does not keep a rule from its entity. Where an entity has been escaped, the last of its
opening delimiters, its body with the backslash that follows it and the first of its closing
delimiters make an entity again: of the same form, except that two or more underscores leave single
ones. So the rules find something in each text that they have changed.

* `Form.Marking.unmarked_iff`: a form marks nothing just if no entity begins anywhere;
* `Form.Recurs`: the entities of a form leave entities of another one when they are escaped;
* `escapeAllDelimiters_twice_iff`: what the rules leave alone the second time, they left alone the
  first time.
-/

namespace LiteralMarkdown

open Glyph EscapeRule

namespace Glyph

theorem length_shown (gs : List Glyph) :
    (shown gs).length = (plain gs).length + gs.countP Glyph.escaped := by
  induction gs with
  | nil => rfl
  | cons g gs ih =>
    rw [shown_cons, List.length_append, ih, plain_cons, List.length_cons, List.countP_cons]
    cases g.escaped with
    | true =>
      simp only [if_true, List.length_cons, List.length_nil]
      omega
    | false =>
      simp only [Bool.false_eq_true, if_false, List.length_cons, List.length_nil]
      omega

/-- Nothing is marked just if the shown reading adds nothing. -/
theorem shown_eq_plain_iff {gs : List Glyph} :
    shown gs = plain gs ↔ ∀ g ∈ gs, g.escaped = false := by
  constructor
  · intro h
    have hlen := length_shown gs
    rw [h] at hlen
    have hcount : gs.countP Glyph.escaped = 0 := by omega
    intro g hg
    have hnone := List.countP_eq_zero.1 hcount g hg
    simpa using hnone
  · intro h
    have hgs : ofText false (plain gs) = gs := (below_ofText_false gs).eq_of_unmarked h
    rw [← hgs, shown_ofText_false, plain_ofText]

/-- Nothing is marked below a text without marks. -/
theorem Below.unmarked {gs hs : List Glyph} (h : Below gs hs)
    (hhs : ∀ k ∈ hs, k.escaped = false) : ∀ g ∈ gs, g.escaped = false := by
  rw [h.eq_of_unmarked hhs]
  exact hhs

/-- A marking above another one is split where that one is split. -/
theorem Below.split_left {before behind hs : List Glyph} (h : Below (before ++ behind) hs) :
    ∃ before' behind', hs = before' ++ behind' ∧ Below before before' ∧ Below behind behind' := by
  induction before generalizing hs with
  | nil => exact ⟨[], hs, rfl, .nil, h⟩
  | cons g before ih =>
    cases h with
    | cons hg h =>
      rcases ih h with ⟨before', behind', rfl, hbefore, hbehind⟩
      exact ⟨_ :: before', behind', rfl, .cons hg hbefore, hbehind⟩

/-- What is all marked is marked the same way above. -/
theorem Below.eq_of_replicate {n : Nat} {d : Char} {hs : List Glyph}
    (h : Below (List.replicate n ⟨d, true⟩) hs) : hs = List.replicate n ⟨d, true⟩ := by
  induction n generalizing hs with
  | zero =>
    cases h
    rfl
  | succ n ih =>
    rw [List.replicate_succ] at h ⊢
    cases h with
    | @cons _ k _ hs hk h =>
      have hglyph : k = ⟨d, true⟩ := by
        cases k with
        | mk char mark =>
          obtain rfl : d = char := hk.1
          obtain rfl : mark = true := hk.2 rfl
          rfl
      rw [hglyph, ih h]

end Glyph

/-! ## Texts without entities -/

namespace Form

variable {form : Form}

/-- Nowhere in the text does an entity begin. -/
def Free (form : Form) (text : List Char) : Prop :=
  ∀ front behind, text = front ++ behind → form.Absent behind

theorem free_nil : form.Free [] := by
  intro front behind h
  rw [(List.append_eq_nil_iff.1 h.symm).2]
  exact absent_nil

theorem free_cons {a : Char} {rest : List Char} :
    form.Free (a :: rest) ↔ form.Absent (a :: rest) ∧ form.Free rest := by
  constructor
  · intro h
    refine ⟨h [] (a :: rest) rfl, fun front behind hsplit => ?_⟩
    exact h (a :: front) behind (by rw [hsplit, List.cons_append])
  · rintro ⟨hhead, hrest⟩ front behind hsplit
    cases front with
    | nil =>
      rw [List.nil_append] at hsplit
      exact hsplit ▸ hhead
    | cons b front => exact hrest front behind (List.cons.inj hsplit).2

theorem Free.of_append {front rest : List Char} (h : form.Free (front ++ rest)) :
    form.Free rest := by
  intro before behind hsplit
  exact h (front ++ before) behind (by rw [hsplit, List.append_assoc])

theorem At.not_free {rest body behind : List Char} {n k : Nat}
    (h : form.At rest n body k behind) (front : List Char) : ¬ form.Free (front ++ rest) := by
  intro hfree
  exact hfree front rest rfl n body k behind h

namespace Marking

variable {text : List Char} {gs : List Glyph}

/-- Where a text is not free of entities, one of them is marked. -/
theorem exists_marked (h : form.Marking text gs) (hfree : ¬ form.Free text) :
    ∃ front n body k behind, gs = front ++ (form.marked n body k ++ behind) ∧
      form.Entity n body k (plain behind) := by
  induction h with
  | stop => exact absurd free_nil hfree
  | @skip a rest gs hnone next ih =>
    have hrest : ¬ form.Free rest := fun h => hfree (free_cons.2 ⟨hnone, h⟩)
    rcases ih hrest with ⟨front, n, body, k, behind, rfl, hentity⟩
    exact ⟨⟨a, false⟩ :: front, n, body, k, behind, rfl, hentity⟩
  | @take text body behind n k gs hat hmost next ih =>
    have hentity := hat.entity
    rw [← next.plain_eq] at hentity
    exact ⟨[], n, body, k, gs, rfl, hentity⟩

/-- A form marks nothing just if no entity begins anywhere. -/
theorem unmarked_iff (h : form.Marking text gs) :
    (∀ g ∈ gs, g.escaped = false) ↔ form.Free text := by
  constructor
  · intro hgs
    by_contra hfree
    rcases h.exists_marked hfree with ⟨front, n, body, k, behind, rfl, hentity⟩
    rcases Nat.exists_eq_add_one.2 (form.opens hentity) with ⟨m, rfl⟩
    have hmarked := hgs ⟨form.delimiter, true⟩ (by simp [marked])
    cases hmarked
  · intro hfree
    induction h with
    | stop => simp
    | skip _ _ ih => exact List.forall_mem_cons.2 ⟨rfl, ih (free_cons.1 hfree).2⟩
    | take hat => exact absurd hfree (hat.not_free [])

end Marking

/-! ## What is left of an escaped entity -/

/-- Where entities of the form have been escaped, entities of the other form begin, whatever else
has been escaped. -/
def Recurs (form form' : Form) : Prop :=
  ∀ ⦃n k : Nat⦄ ⦃body behind : List Glyph⦄, form.Entity n (plain body) k (plain behind) →
    (∀ g ∈ body, g.escaped = true → g.char ∈ entityChars) →
    ¬ form'.Free (shown (List.replicate n ⟨form.delimiter, true⟩ ++
      (body ++ (List.replicate k ⟨form.delimiter, true⟩ ++ behind))))

theorem shown_replicate_succ (d : Char) (n : Nat) :
    shown (List.replicate (n + 1) ⟨d, true⟩) =
      shown (List.replicate n ⟨d, true⟩) ++ [escapeMarker] ++ [d] := by
  rw [List.replicate_succ', shown_append, List.append_assoc]
  rfl

/-- Between the last opening and the first closing delimiter of an escaped entity lie its body and a
backslash. -/
theorem shown_enclosed (d : Char) (n k : Nat) (body behind : List Glyph) :
    shown (List.replicate (n + 1) ⟨d, true⟩ ++
      (body ++ (List.replicate (k + 1) ⟨d, true⟩ ++ behind))) =
    (shown (List.replicate n ⟨d, true⟩) ++ [escapeMarker]) ++
      ([d] ++ ((shown body ++ [escapeMarker]) ++
        ([d] ++ shown (List.replicate k ⟨d, true⟩ ++ behind)))) := by
  rw [shown_append, shown_replicate_succ, List.replicate_succ, List.cons_append, shown_append,
    shown_cons]
  simp

theorem not_mem_shown_concat {d : Char} (hd : d ≠ escapeMarker) {body : List Glyph}
    (h : d ∉ plain body) : d ∉ shown body ++ [escapeMarker] := by
  intro hmem
  rcases List.mem_append.1 hmem with hmem | hmem
  · exact h ((mem_shown hd).1 hmem)
  · exact hd (List.mem_singleton.1 hmem)

/-- One delimiter is left on each side. -/
theorem recurs_paired {d : Char} {hollow : Bool} (hd : d ≠ escapeMarker) :
    (paired d 1 hollow Nat.one_pos).Recurs (paired d 1 hollow Nat.one_pos) := by
  rintro n k body behind ⟨hn, rfl, hbody, -⟩ -
  rcases Nat.exists_eq_add_one.2 hn with ⟨m, rfl⟩
  have hentity : (paired d 1 hollow Nat.one_pos).Entity 1 (shown body ++ [escapeMarker]) 1
      (shown (List.replicate m ⟨d, true⟩ ++ behind)) :=
    ⟨Nat.le_refl 1, rfl, not_mem_shown_concat hd hbody, fun h => by simp at h⟩
  rw [shown_enclosed]
  exact At.not_free ⟨rfl, hentity⟩ _

/-- A single underscore on each side, and no word character behind the second one. -/
theorem not_free_underscored {n k : Nat} {body behind : List Glyph} (hbody : '_' ∉ plain body)
    (hbehind : (shown (List.replicate k ⟨'_', true⟩ ++ behind)).head?.any Text.isWord = false) :
    ¬ underscored.Free (shown (List.replicate (n + 1) ⟨'_', true⟩ ++
      (body ++ (List.replicate (k + 1) ⟨'_', true⟩ ++ behind)))) := by
  have hentity : underscored.Entity 1 (shown body ++ [escapeMarker]) 1
      (shown (List.replicate k ⟨'_', true⟩ ++ behind)) :=
    ⟨rfl, rfl, by simp, not_mem_shown_concat (by decide) hbody, hbehind⟩
  rw [shown_enclosed]
  exact At.not_free ⟨rfl, hentity⟩ _

theorem any_isWord_of_head?_eq {text : List Char} (h : text.head? = some escapeMarker) :
    text.head?.any Text.isWord = false := by
  rw [h]
  decide

/-- Of two or more underscores the first closing one has a backslash behind it. -/
theorem recurs_strong : (paired '_' 2 false Nat.two_pos).Recurs underscored := by
  rintro n k body behind ⟨hn, rfl, hbody, -⟩ -
  rcases Nat.exists_eq_add_of_le hn with ⟨m, rfl⟩
  have hcount : 2 + m = m + 1 + 1 := by omega
  rw [hcount]
  refine not_free_underscored hbody (any_isWord_of_head?_eq ?_)
  rw [List.replicate_succ, List.cons_append, shown_cons]
  rfl

/-- Behind a closing underscore lies what lay there, or a backslash. -/
theorem recurs_underscored : underscored.Recurs underscored := by
  rintro n k body behind ⟨rfl, rfl, -, hbody, hword⟩ -
  refine not_free_underscored (n := 0) (k := 0) hbody ?_
  show (shown behind).head?.any Text.isWord = false
  rcases head?_shown behind with hmarker | hsame
  · exact any_isWord_of_head?_eq hmarker
  · rw [hsame]
    exact hword

/-- An opening bracket is followed by what followed it, and the first closing bracket has no
backslash before it. -/
theorem recurs_bracketed : bracketed.Recurs bracketed := by
  rintro n k body behind ⟨rfl, rfl, hcaret, inner, hbody, hinner⟩ hchars
  rcases exists_split_of_plain hbody with ⟨before, last, rfl, rfl, hlast⟩
  rcases List.map_eq_singleton_iff.1 hlast with ⟨g, rfl, hg⟩
  have hunmarked : g.escaped = false := by
    by_contra he
    have hmem := hchars g (by simp) (by simpa using he)
    rw [hg] at hmem
    exact absurd hmem (by decide)
  have hshown : shown (before ++ [g]) = shown before ++ [']'] := by
    rw [shown_concat before g hunmarked, hg]
  have hhead : (shown (before ++ [g])).head? ≠ some '^' := by
    rcases head?_shown (before ++ [g]) with hmarker | hsame
    · rw [hmarker]
      decide
    · rw [hsame]
      exact hcaret
  have hentity : bracketed.Entity 1 (shown (before ++ [g])) 0 (shown behind) :=
    ⟨rfl, rfl, hhead, shown before, hshown, mt (mem_shown (by decide)).1 hinner⟩
  have htext : shown (List.replicate 1 ⟨'[', true⟩ ++
      (before ++ [g] ++ (List.replicate 0 ⟨'[', true⟩ ++ behind))) =
      [escapeMarker] ++ (['['] ++ (shown (before ++ [g]) ++ shown behind)) := by
    rw [shown_append, shown_append]
    rfl
  show ¬ bracketed.Free (shown (List.replicate 1 ⟨'[', true⟩ ++
    (before ++ [g] ++ (List.replicate 0 ⟨'[', true⟩ ++ behind))))
  rw [htext]
  exact At.not_free ⟨rfl, hentity⟩ _

/-- A text in which a form has found something is not free of what it leaves, even with the marks of
other forms. -/
theorem Recurs.not_free_shown {form' : Form} (h : form.Recurs form') {text : List Char}
    {hs gs : List Glyph} (hmarking : form.Marking text hs) (hfree : ¬ form.Free text)
    (hbelow : Below hs gs) (hgs : ∀ g ∈ gs, g.escaped = true → g.char ∈ entityChars) :
    ¬ form'.Free (shown gs) := by
  rcases hmarking.exists_marked hfree with ⟨front, n, body, k, behind, rfl, hentity⟩
  rw [marked, List.append_assoc, List.append_assoc] at hbelow
  rcases hbelow.split_left with ⟨front', rest, rfl, -, hbelow⟩
  rcases hbelow.split_left with ⟨opening, rest, rfl, hopening, hbelow⟩
  rcases hbelow.split_left with ⟨body', rest, rfl, hbody, hbelow⟩
  rcases hbelow.split_left with ⟨closing, behind', rfl, hclosing, hbehind⟩
  obtain rfl := hopening.eq_of_replicate
  obtain rfl := hclosing.eq_of_replicate
  have hplain : plain body' = body := by rw [← hbody.sameText.plain_eq, plain_ofText]
  have hplain' : plain behind' = plain behind := hbehind.sameText.plain_eq.symm
  rw [← hplain, ← hplain'] at hentity
  have hchars : ∀ g ∈ body', g.escaped = true → g.char ∈ entityChars :=
    fun g hg => hgs g (by simp [hg])
  intro hfree'
  rw [shown_append] at hfree'
  exact h hentity hchars hfree'.of_append

end Form

/-! ## The rules -/

/-- A rule leaves a text alone just if no entity of its form begins anywhere. -/
theorem EscapeRule.Recognizes.escapeDelimiters_eq_iff {rule : EscapeRule} {form : Form}
    (h : rule.Recognizes form) (text : List Char) :
    escapeDelimiters rule text = text ↔ form.Free text := by
  have hshown : shown (rule.marks text) = plain (rule.marks text) ↔ form.Free text :=
    shown_eq_plain_iff.trans (h.marking text).unmarked_iff
  rw [rule.shown_marks, h.plain_marks] at hshown
  exact hshown

/-- The entities of each rule leave entities of some rule. -/
theorem EscapeRule.exists_recurs : ∀ p ∈ withForms, ∃ q ∈ withForms, p.2.Recurs q.2 := by
  have hasterisk : (asteriskEmphasis, Form.paired '*' 1 false Nat.one_pos) ∈ withForms := by
    simp [withForms]
  have hunderscore : (underscoreEmphasis, Form.underscored) ∈ withForms := by simp [withForms]
  have htilde : (tildeStrikethrough, Form.paired '~' 1 false Nat.one_pos) ∈ withForms := by
    simp [withForms]
  have hbacktick : (backtickCode, Form.paired '\x60' 1 true Nat.one_pos) ∈ withForms := by
    simp [withForms]
  have hbracket : (bracketLink, Form.bracketed) ∈ withForms := by simp [withForms]
  intro p hp
  simp only [withForms, List.mem_cons, List.not_mem_nil, or_false] at hp
  rcases hp with rfl | rfl | rfl | rfl | rfl | rfl
  · exact ⟨_, hasterisk, Form.recurs_paired (by decide)⟩
  · exact ⟨_, hunderscore, Form.recurs_underscored⟩
  · exact ⟨_, hunderscore, Form.recurs_strong⟩
  · exact ⟨_, htilde, Form.recurs_paired (by decide)⟩
  · exact ⟨_, hbacktick, Form.recurs_paired (by decide)⟩
  · exact ⟨_, hbracket, Form.recurs_bracketed⟩

/-- The marks of a rule in the text itself are among those of the six rules. For the second rule for
underscores this needs that the first one finds nothing. -/
theorem Overlay.below_marks {text : List Char} {strong gs : List Glyph}
    (h : Overlay text strong gs) {rule : EscapeRule} (hrule : rule ∈ EscapeRule.all)
    (hfree : rule = underscoreStrong → Form.underscored.Free text) :
    Below (rule.marks text) gs := by
  by_cases hne : rule = underscoreStrong
  · have hunmarked := (recognizes_underscoreEmphasis.marking text).unmarked_iff.2 (hfree hne)
    have hsame := (recognizes_underscoreEmphasis.escapeDelimiters_eq_iff text).2 (hfree hne)
    have hmarks := h.strongMarks.marks_eq
    rw [hsame, carry_of_unmarked h.strongMarks.apart.sameText hunmarked] at hmarks
    rw [hne, hmarks]
    exact h.below_strong
  · exact h.below rule hrule hne

/-- To find that a text is free of all entities, the second rule for underscores may be left until
the first one has found nothing. -/
theorem forall_free_of_first {text : List Char}
    (h : ∀ p ∈ withForms, (p.1 = underscoreStrong → Form.underscored.Free text) →
      p.2.Free text) : ∀ p ∈ withForms, p.2.Free text := by
  have hne : underscoreEmphasis ≠ underscoreStrong := by decide
  have hfirst : Form.underscored.Free text :=
    h (underscoreEmphasis, .underscored) (by simp [withForms]) fun heq => absurd heq hne
  exact fun p hp => h p hp fun _ => hfirst

/-- Steps that each leave something alone leave it alone one after the other. -/
theorem foldl_eq_of_fixed {α β : Type} {f : β → α → β} {l : List α} {x : β}
    (h : ∀ a ∈ l, f x a = x) : l.foldl f x = x := by
  induction l with
  | nil => rfl
  | cons a l ih =>
    rw [List.foldl_cons, h a List.mem_cons_self]
    exact ih fun b hb => h b (List.mem_cons_of_mem a hb)

/-- The six rules leave a text alone just if it is free of the entities of each. -/
theorem escapeAllDelimiters_eq_iff (text : List Char) :
    escapeAllDelimiters text = text ↔ ∀ p ∈ withForms, p.2.Free text := by
  have hall : ∀ p ∈ withForms, p.1 ∈ EscapeRule.all := fun p hp => List.mem_map_of_mem hp
  constructor
  · intro hsame
    rcases exists_overlay text with ⟨strong, gs, h⟩
    have hunmarked : ∀ g ∈ gs, g.escaped = false := by
      rw [← shown_eq_plain_iff, h.escapesBy.shown_eq, h.escapesBy.plain_eq, hsame]
    refine forall_free_of_first fun p hp hfirst => ?_
    rcases recognizes_of_mem_withForms p hp with ⟨hrec, -, -⟩
    have hbelow := h.below_marks (hall p hp) hfirst
    exact (hrec.marking text).unmarked_iff.1 (hbelow.unmarked hunmarked)
  · intro hfree
    refine foldl_eq_of_fixed fun rule hrule => ?_
    rcases exists_form_of_mem_all hrule with ⟨form, hform⟩
    rcases recognizes_of_mem_withForms _ hform with ⟨hrec, -, -⟩
    exact (hrec.escapeDelimiters_eq_iff text).2 (hfree _ hform)

/-- What the rules leave alone the second time, they left alone the first time. -/
theorem escapeAllDelimiters_twice_iff (text : List Char) :
    escapeAllDelimiters (escapeAllDelimiters text) = escapeAllDelimiters text ↔
      escapeAllDelimiters text = text := by
  constructor
  · intro hsame
    rw [escapeAllDelimiters_eq_iff] at hsame
    rw [escapeAllDelimiters_eq_iff]
    rcases exists_overlay text with ⟨strong, gs, h⟩
    refine forall_free_of_first fun p hp hfirst => ?_
    rcases recognizes_of_mem_withForms p hp with ⟨hrec, -, -⟩
    rcases exists_recurs p hp with ⟨q, hq, hrecurs⟩
    have hbelow := h.below_marks (List.mem_map_of_mem hp) hfirst
    by_contra hfree
    apply hrecurs.not_free_shown (hrec.marking text) hfree hbelow h.escapesBy.char_mem
    rw [h.escapesBy.shown_eq]
    exact hsame q hq
  · intro hsame
    rw [hsame, hsame]

end LiteralMarkdown
