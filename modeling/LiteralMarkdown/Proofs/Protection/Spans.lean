import LiteralMarkdown.Proofs.Protection.Padding
import LiteralMarkdown.Proofs.Segments

/-!
# Protected spans

`Span` says what is protected at the beginning of a text, and `Cut` how a text falls into gaps and
spans: no span begins inside a gap. Each text can be cut in one way only, and the segments of the
pattern for protected HTML are that cut. Backslashes that are put into the gaps leave the spans as
they are.

* `cut_splitSegments`: the segments of a text are its cut;
* `Cut.unique`: there is no other cut;
* `Cut.padded`: the cut of a text whose gaps are padded has the same spans.
-/

namespace LiteralMarkdown.Protection

open Pattern Cursor Segment

/-- A tag or a block begins where the text begins. -/
def Opens (rest : List Char) : Prop := ∃ x, x <+: rest ∧ (IsTag x ∨ IsBlock x)

/-- The text begins with `x`, which is protected there: the tag that begins there, or else the
shortest block that does. -/
def Span (rest x : List Char) : Prop :=
  x <+: rest ∧ (IsTag x ∨ (∀ y, y <+: rest → ¬ IsTag y) ∧ IsBlock x ∧
    ∀ y, y <+: rest → IsBlock y → x.length ≤ y.length)

theorem Span.opens {rest x : List Char} (h : Span rest x) : Opens rest := by
  rcases h with ⟨hpre, htag | ⟨-, hblock, -⟩⟩
  · exact ⟨x, hpre, Or.inl htag⟩
  · exact ⟨x, hpre, Or.inr hblock⟩

/-- What is protected begins with an opening bracket. -/
theorem Opens.exists_cons {rest : List Char} (h : Opens rest) : ∃ r, rest = '<' :: r := by
  rcases h with ⟨x, ⟨r, rfl⟩, ⟨name, tail, -, -, -, -, rfl⟩ | ⟨name, -, tail, body, -, rfl⟩⟩
  · exact ⟨_, rfl⟩
  · exact ⟨_, rfl⟩

theorem Span.ne_nil {rest x : List Char} (h : Span rest x) : x ≠ [] := by
  rintro rfl
  rcases h with ⟨-, ⟨name, tail, -, -, -, -, h⟩ | ⟨-, ⟨name, -, tail, body, -, h⟩, -⟩⟩
  · cases h
  · cases h

theorem Span.unique {rest x y : List Char} (hx : Span rest x) (hy : Span rest y) : x = y := by
  rcases hx with ⟨hpx, hx⟩
  rcases hy with ⟨hpy, hy⟩
  rcases hx with htag | ⟨hnone, hblock, hshort⟩
  · rcases hy with htag' | ⟨hnone', -, -⟩
    · exact htag.unique htag' hpx hpy
    · exact absurd htag (hnone' x hpx)
  · rcases hy with htag' | ⟨-, hblock', hshort'⟩
    · exact absurd htag' (hnone y hpy)
    · have hlen : x.length = y.length :=
        Nat.le_antisymm (hshort y hpy hblock') (hshort' x hpx hblock)
      exact (List.prefix_of_prefix_length_le hpx hpy hlen.le).eq_of_length hlen

/-! ## What the pattern takes -/

theorem onward?_pattern (c : Cursor) :
    pattern.onward? c = (htmlTag.onward? c).or (preformattedBlock.onward? c) :=
  List.find?_append

/-- No tag lies ahead where the pattern for tags gets no further. -/
theorem not_isTag_of_onward?_eq_none {c : Cursor} (h : htmlTag.onward? c = none) :
    ∀ x, x <+: c.rest → ¬ IsTag x := by
  intro x hpre hx
  have hle := onward?_eq_none_iff.1 h _ ((accepts_htmlTag c _).2 ⟨x, hx, hpre, rfl⟩)
  have hne : x ≠ [] := Span.ne_nil ⟨hpre, Or.inl hx⟩
  have hpos := List.length_pos_iff.2 hne
  rw [after_position] at hle
  omega

theorem not_isBlock_of_onward?_eq_none {c : Cursor} (h : preformattedBlock.onward? c = none) :
    ∀ x, x <+: c.rest → ¬ IsBlock x := by
  intro x hpre hx
  rcases exists_mem_ends_of_isBlock hx hpre with ⟨e, he, hreach⟩
  have hle := onward?_eq_none_iff.1 h e he
  have hpos : 0 < x.length := by
    rcases hx with ⟨name, -, tail, body, -, rfl⟩
    exact Nat.succ_pos _
  have := hreach.position
  omega

/-- The pattern takes what is protected at its place. -/
theorem span_of_onward? {c e : Cursor} (h : pattern.onward? c = some e) :
    Span c.rest (c.textTo e) := by
  have hpre : c.textTo e <+: c.rest := ⟨e.rest, (reaches_of_onward? h).1.rest.symm⟩
  rw [onward?_pattern] at h
  cases htag : htmlTag.onward? c with
  | some d =>
    rw [htag] at h
    obtain rfl : d = e := Option.some.inj h
    rcases accepts_htmlTag.exists_reaches (mem_ends_of_onward? htag) with ⟨x, hx, hreach, -⟩
    rw [hreach.textTo_eq] at hpre ⊢
    exact ⟨hpre, Or.inl hx⟩
  | none =>
    rw [htag, Option.none_or] at h
    rcases exists_isBlock_of_mem_ends (mem_ends_of_onward? h) with ⟨x, hx, hreach⟩
    rw [hreach.textTo_eq] at hpre ⊢
    refine ⟨hpre, Or.inr ⟨not_isTag_of_onward?_eq_none htag, hx, ?_⟩⟩
    intro y hpy hy
    have hle := position_le_of_onward?_preformattedBlock h hy hpy
    have := hreach.position
    omega

theorem not_opens_of_onward?_eq_none {c : Cursor} (h : pattern.onward? c = none) :
    ¬ Opens c.rest := by
  rw [onward?_pattern, Option.or_eq_none_iff] at h
  rintro ⟨x, hpre, htag | hblock⟩
  · exact not_isTag_of_onward?_eq_none h.1 x hpre htag
  · exact not_isBlock_of_onward?_eq_none h.2 x hpre hblock

/-! ## Cuts -/

/-- Before `rest`, no tag and no block begins inside the gap. -/
def Bare (gap rest : List Char) : Prop :=
  ∀ front behind, gap = front ++ behind → behind ≠ [] → ¬ Opens (behind ++ rest)

/-- The text is a gap, or a gap and a span and a text that is cut. -/
inductive Cut : List Char → List (List Char) → List (List Char) → Prop where
  | last {gap : List Char} (hbare : Bare gap []) : Cut gap [gap] []
  | next {gap x rest : List Char} {gaps spans : List (List Char)} (hbare : Bare gap (x ++ rest))
      (hspan : Span (x ++ rest) x) (h : Cut rest gaps spans) :
      Cut (gap ++ (x ++ rest)) (gap :: gaps) (x :: spans)

theorem bare_nil (rest : List Char) : Bare [] rest := by
  intro front behind h hne
  exact absurd (List.append_eq_nil_iff.1 h.symm).2 hne

/-- A gap goes on over a character at which no span begins. -/
theorem Bare.concat {gap rest : List Char} {a : Char} (hbare : Bare gap (a :: rest))
    (hclosed : ¬ Opens (a :: rest)) : Bare (gap ++ [a]) rest := by
  intro before behind hsplit hne hopens
  rcases List.eq_nil_or_concat behind with rfl | ⟨inner, b, rfl⟩
  · exact hne rfl
  · rw [List.concat_eq_append, ← List.append_assoc] at hsplit
    rcases List.append_inj' hsplit rfl with ⟨hgap, hb⟩
    obtain rfl : a = b := by simpa using hb
    rw [List.concat_eq_append, List.append_assoc] at hopens
    by_cases hinner : inner = []
    · rw [hinner] at hopens
      exact hclosed hopens
    · exact hbare before inner hgap hinner hopens

/-- A gap ends where the next span begins, so it is not longer than another gap there. -/
theorem Bare.eq_of_append {gap gap' rest rest' : List Char} (hbare : Bare gap rest)
    (hbare' : Bare gap' rest') (hrest : Opens rest) (hrest' : Opens rest')
    (h : gap ++ rest = gap' ++ rest') : gap = gap' ∧ rest = rest' := by
  rcases List.append_eq_append_iff.1 h with ⟨more, rfl, rfl⟩ | ⟨more, rfl, rfl⟩
  · by_cases hmore : more = []
    · simp [hmore]
    · exact absurd hrest (hbare' gap more rfl hmore)
  · by_cases hmore : more = []
    · simp [hmore]
    · exact absurd hrest' (hbare gap' more rfl hmore)

/-- A text can be cut in one way only. -/
theorem Cut.unique {text : List Char} {gaps gaps' spans spans' : List (List Char)}
    (h : Cut text gaps spans) (h' : Cut text gaps' spans') : gaps = gaps' ∧ spans = spans' := by
  induction h generalizing gaps' spans' with
  | @last gap hbare =>
    generalize htext : gap = text' at h'
    cases h' with
    | last hbare' => exact ⟨rfl, rfl⟩
    | @next gap' x' rest' gaps' spans' hbare' hspan' h' =>
      have hne : x' ++ rest' ≠ [] := fun hnil => hspan'.ne_nil (List.append_eq_nil_iff.1 hnil).1
      have := hbare gap' (x' ++ rest') htext hne
      rw [List.append_nil] at this
      exact absurd hspan'.opens this
  | @next gap x rest gaps spans hbare hspan h ih =>
    generalize htext : gap ++ (x ++ rest) = text' at h'
    cases h' with
    | last hbare' =>
      have hne : x ++ rest ≠ [] := fun hnil => hspan.ne_nil (List.append_eq_nil_iff.1 hnil).1
      have := hbare' gap (x ++ rest) htext.symm hne
      rw [List.append_nil] at this
      exact absurd hspan.opens this
    | @next gap' x' rest' gaps' spans' hbare' hspan' h' =>
      rcases hbare.eq_of_append hbare' hspan.opens hspan'.opens htext with ⟨rfl, hrest⟩
      obtain rfl : x = x' := hspan.unique (hrest ▸ hspan')
      obtain rfl := List.append_cancel_left hrest
      rcases ih h' with ⟨rfl, rfl⟩
      exact ⟨rfl, rfl⟩

/-- In front of a cut text a text without any opening bracket makes its first gap longer. -/
theorem Cut.prepend {text front gap : List Char} {gaps spans : List (List Char)}
    (h : Cut text (gap :: gaps) spans) (hfront : '<' ∉ front) :
    Cut (front ++ text) ((front ++ gap) :: gaps) spans := by
  have hbare : ∀ rest, Bare gap rest → Bare (front ++ gap) rest := by
    intro rest hgap before behind hsplit hne hopens
    rcases List.append_eq_append_iff.1 hsplit with ⟨more, rfl, rfl⟩ | ⟨more, rfl, rfl⟩
    · exact hgap more behind rfl hne hopens
    · rcases hopens.exists_cons with ⟨r, hr⟩
      cases more with
      | nil => exact hgap [] gap rfl hne hopens
      | cons a more =>
        obtain rfl : a = '<' := (List.cons.inj hr).1
        exact hfront (by simp)
  cases h with
  | last hgap => exact .last (hbare _ hgap)
  | next hgap hspan h =>
    rw [← List.append_assoc]
    exact .next (hbare _ hgap) hspan h

/-! ## The segments of a text -/

/-- The segments of a run that has passed a bare stretch are a cut. -/
theorem cut_of_run {c : Cursor} {pieces : List Piece} (h : pattern.Run c pieces) :
    ∀ {index : Nat} {front : List Char}, c.position = index + front.length → Bare front c.rest →
      Cut (front ++ c.rest)
        (gapTexts (ofMatches index (front ++ c.rest) (pieces.filterMap Piece.match?)))
        (matchTexts (ofMatches index (front ++ c.rest) (pieces.filterMap Piece.match?))) := by
  induction h with
  | @stop c hrest =>
    intro index front _ hbare
    rw [hrest] at hbare
    rw [List.filterMap_nil, ofMatches, gapTexts_unmatched, matchTexts_unmatched, hrest,
      List.append_nil]
    exact .last hbare
  | @touch c e pieces he hpos next ih =>
    intro index front hposition hbare
    have hempty := (isEmpty_matchTo he).2 hpos
    rw [filterMap_match?_found, ofMatches, if_pos hempty]
    exact ih hposition hbare
  | @skip c a rest pieces hrest hnone next ih =>
    intro index front hposition hbare
    have hafter : (c.after [a]).rest = rest := after_rest hrest
    have hsame : front ++ c.rest = front ++ [a] ++ (c.after [a]).rest := by simp [hrest, hafter]
    rw [filterMap_match?_skipped, hsame]
    rw [hrest] at hbare
    have hclosed : ¬ Opens (a :: rest) := hrest ▸ not_opens_of_onward?_eq_none hnone
    refine ih ?_ ?_
    · simp [hposition, Nat.add_assoc]
    · rw [hafter]
      exact hbare.concat hclosed
  | @take c e pieces he next ih =>
    intro index front hposition hbare
    rcases reaches_of_onward? he with ⟨hreach, hne⟩
    have hspan := span_of_onward? he
    have hafter : (c.after (c.textTo e)).rest = e.rest := after_rest hreach.rest
    have hgap : c.position - index = front.length := by omega
    have htake : (front ++ c.rest).take front.length = front := List.take_left
    have hdrop : (front ++ c.rest).drop (front.length + (c.textTo e).length) = e.rest := by
      rw [hreach.rest, ← List.append_assoc, ← List.length_append, List.drop_left]
    have hempty : ¬ (c.matchTo e).text.isEmpty = true := by simpa [matchTo] using hne
    rw [filterMap_match?_found, ofMatches, if_neg hempty]
    simp only [matchTo, hgap, htake, hdrop]
    rw [gapTexts_unmatched_append, matchTexts_unmatched_append]
    rw [hreach.rest] at hbare hspan ⊢
    refine .next hbare hspan ?_
    have := @ih (c.position + (c.textTo e).length) [] rfl (bare_nil _)
    rwa [List.nil_append, hafter] at this

/-- The segments of a text are its cut. -/
theorem cut_splitSegments (text : List Char) :
    Cut text (gapTexts (splitSegments pattern text)) (matchTexts (splitSegments pattern text)) :=
  cut_of_run (pattern.run_scan text) rfl (bare_nil text)

theorem Cut.splitSegments_eq {text : List Char} {gaps spans : List (List Char)}
    (h : Cut text gaps spans) : gapTexts (splitSegments pattern text) = gaps ∧
      matchTexts (splitSegments pattern text) = spans :=
  (cut_splitSegments text).unique h

end LiteralMarkdown.Protection
