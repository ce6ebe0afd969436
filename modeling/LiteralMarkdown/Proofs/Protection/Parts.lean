import LiteralMarkdown.Proofs.Protection.Preservation

/-!
# Protected spans cut a text into parts

What lies before a protected span and what lies behind it are escaped as if each were a text of its
own. A cut falls apart at each of its spans: nothing before the span opens once the text ends there,
and what lies behind it has been cut from its own beginning anyway.

* `Cut.split`: at each span a cut falls into the cuts of two texts;
* `escapeCommon_around`: a protected segment stands unchanged between two texts that are escaped
  each on its own.
-/

namespace LiteralMarkdown

open Segment

namespace Protection

/-! ## Texts that end earlier -/

theorem Opens.append {rest : List Char} (h : Opens rest) (more : List Char) :
    Opens (rest ++ more) := by
  rcases h with ⟨x, hpre, hx⟩
  exact ⟨x, hpre.trans (List.prefix_append rest more), hx⟩

/-- A gap before a longer text is a gap before the text. -/
theorem Bare.of_append {gap rest more : List Char} (h : Bare gap (rest ++ more)) :
    Bare gap rest := by
  intro front behind hsplit hne hopens
  have hmore := hopens.append more
  rw [List.append_assoc] at hmore
  exact h front behind hsplit hne hmore

/-- A span stays one when the text behind it ends earlier: neither a tag nor a shorter block
appears. -/
theorem Span.of_append {x rest more : List Char} (h : Span (x ++ (rest ++ more)) x) :
    Span (x ++ rest) x := by
  have hlonger : ∀ y, y <+: x ++ rest → y <+: x ++ (rest ++ more) := by
    intro y hy
    rw [← List.append_assoc]
    exact hy.trans (List.prefix_append (x ++ rest) more)
  refine ⟨List.prefix_append x rest, ?_⟩
  rcases h with ⟨-, htag | ⟨hnone, hblock, hshort⟩⟩
  · exact Or.inl htag
  · refine Or.inr ⟨?_, hblock, ?_⟩
    · intro y hy
      exact hnone y (hlonger y hy)
    · intro y hy
      exact hshort y (hlonger y hy)

/-! ## The parts of a cut -/

theorem Cut.interleave_eq {text : List Char} {gaps spans : List (List Char)}
    (h : Cut text gaps spans) : interleave gaps spans = text := by
  induction h with
  | last hbare => simp [interleave]
  | next hbare hspan h ih => rw [interleave, ih]

/-- A cut with a span begins with its first gap and this span. -/
theorem Cut.exists_rest {text gap x : List Char} {gaps spans : List (List Char)}
    (h : Cut text (gap :: gaps) (x :: spans)) :
    ∃ rest, text = gap ++ (x ++ rest) ∧ Bare gap (x ++ rest) ∧ Span (x ++ rest) x ∧
      Cut rest gaps spans := by
  cases h with
  | next hbare hspan h => exact ⟨_, rfl, hbare, hspan, h⟩

/-- At each of its spans a cut falls into the cuts of what lies before and of what lies behind. -/
theorem Cut.split {text x : List Char} {gaps gaps' spans spans' : List (List Char)}
    (h : Cut text (gaps ++ gaps') (spans ++ x :: spans'))
    (hlen : gaps.length = spans.length + 1) :
    ∃ before behind, text = before ++ (x ++ behind) ∧ Cut before gaps spans ∧
      Cut behind gaps' spans' := by
  induction spans generalizing text gaps with
  | nil =>
    rcases List.length_eq_one_iff.1 hlen with ⟨gap, rfl⟩
    rcases Cut.exists_rest h with ⟨rest, rfl, hbare, -, h⟩
    have hbefore : Bare gap ([] ++ (x ++ rest)) := hbare
    exact ⟨gap, rest, rfl, .last hbefore.of_append, h⟩
  | cons y spans ih =>
    cases gaps with
    | nil => cases hlen
    | cons gap gaps =>
      rcases Cut.exists_rest h with ⟨rest, rfl, hbare, hspan, h⟩
      rcases ih h (Nat.succ.inj hlen) with ⟨before, behind, rfl, hbefore, hbehind⟩
      rw [← List.append_assoc y] at hbare
      refine ⟨gap ++ (y ++ before), behind, by simp, ?_, hbehind⟩
      exact .next hbare.of_append hspan.of_append hbefore

/-- Escaping the inline entities of a text escapes the gaps of its cut. -/
theorem Cut.escapeCommon_eq {text : List Char} {gaps spans : List (List Char)}
    (h : Cut text gaps spans) :
    escapeCommon text = interleave (gaps.map escapeAllDelimiters) spans := by
  rcases h.splitSegments_eq with ⟨hgaps, hspans⟩
  rw [escapeCommon_eq_interleave, hgaps, hspans]

/-- Escaping leaves a span as it is and escapes each side of it on its own. -/
theorem Cut.escapeCommon_split {text x : List Char} {gaps gaps' spans spans' : List (List Char)}
    (h : Cut text (gaps ++ gaps') (spans ++ x :: spans'))
    (hlen : gaps.length = spans.length + 1) :
    ∃ before behind, text = before ++ (x ++ behind) ∧ before = interleave gaps spans ∧
      escapeCommon text = escapeCommon before ++ (x ++ escapeCommon behind) := by
  rcases h.split hlen with ⟨before, behind, htext, hbefore, hbehind⟩
  have hlen' : (gaps.map escapeAllDelimiters).length = spans.length + 1 := by
    rw [List.length_map, hlen]
  refine ⟨before, behind, htext, hbefore.interleave_eq.symm, ?_⟩
  rw [h.escapeCommon_eq, hbefore.escapeCommon_eq, hbehind.escapeCommon_eq, List.map_append,
    interleave_append hlen']

end Protection

open Protection

/-- A protected segment stands unchanged between what lies before it and what lies behind it, and
these two are escaped as texts of their own. -/
theorem escapeCommon_around (text : List Char) {s : Segment}
    (hs : s ∈ splitSegments Protection.pattern text) (hmatch : s.isMatch = true) :
    text = text.take s.index ++ (s.text ++ text.drop (s.index + s.text.length)) ∧
    escapeCommon text = escapeCommon (text.take s.index) ++
      (s.text ++ escapeCommon (text.drop (s.index + s.text.length))) := by
  have hcut := cut_splitSegments text
  have htiles := tiles_splitSegments Protection.pattern text
  rcases List.append_of_mem hs with ⟨before, behind, hsegments⟩
  rw [hsegments] at hcut htiles
  rw [gapTexts_append_cons before hmatch, matchTexts_append_cons before hmatch] at hcut
  rcases hcut.escapeCommon_split (length_gapTexts before) with ⟨u, v, htext, hu, hescaped⟩
  -- What lies before the segment is as long as its index says.
  have hindex : s.index = u.length := by
    rw [htiles.index_eq, hu, interleave_gapTexts_matchTexts, Nat.zero_add]
  have htake : text.take s.index = u := by rw [hindex, htext, List.take_left]
  have hdrop : text.drop (s.index + s.text.length) = v := by
    rw [hindex, htext, ← List.append_assoc, ← List.length_append, List.drop_left]
  rw [htake, hdrop]
  exact ⟨htext, hescaped⟩

theorem escapeCommon_around_tag :
    (⟨4, "<b>".toList, true⟩ : Segment) ∈ splitSegments Protection.pattern "*x* <b>*y".toList ∧
    escapeCommon "*x* <b>*y".toList =
      escapeCommon "*x* ".toList ++ ("<b>".toList ++ escapeCommon "*y".toList) := by
  have hmem : (⟨4, "<b>".toList, true⟩ : Segment) ∈
      splitSegments Protection.pattern "*x* <b>*y".toList := by decide
  exact ⟨hmem, (escapeCommon_around "*x* <b>*y".toList hmem rfl).2⟩

end LiteralMarkdown
