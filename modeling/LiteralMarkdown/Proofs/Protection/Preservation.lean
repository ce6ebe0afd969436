import LiteralMarkdown.Proofs.Insertion
import LiteralMarkdown.Proofs.Leading
import LiteralMarkdown.Proofs.Protection.Spans

/-!
# Escaping keeps protected spans

Escaping neither makes nor breaks nor moves a protected span. What it puts in lies in the gaps, and
there a tag or a block that is seen with backslashes would be seen without them. The main statement
is `escape_preserves_spans`.
-/

namespace LiteralMarkdown

open Segment

namespace Protection

/-- Where something protected begins with backslashes, something protected begins without them. -/
theorem Opens.of_padded {t u : List Char} (hu : Opens u) (h : Padded t u) : Opens t := by
  rcases hu with ⟨x, ⟨r, rfl⟩, hx⟩
  rcases h.split with ⟨y, s, rfl, hy, -⟩
  refine ⟨y, List.prefix_append y s, ?_⟩
  rcases hx with htag | hblock
  · exact Or.inl (htag.of_padded hy)
  · exact Or.inr (hblock.of_padded hy)

/-- A span stays one when backslashes are put in behind it. -/
theorem Span.of_padded {x rest rest' : List Char} (hspan : Span (x ++ rest) x)
    (h : Padded rest rest') : Span (x ++ rest') x := by
  refine ⟨List.prefix_append x rest', ?_⟩
  rcases hspan with ⟨-, htag | ⟨hnone, hblock, hshort⟩⟩
  · exact Or.inl htag
  · refine Or.inr ⟨?_, hblock, ?_⟩
    · intro y hpre hy
      rcases hpre with ⟨r, hr⟩
      have hpadded : Padded (x ++ rest) (y ++ r) := hr ▸ (Padded.refl x).append h
      rcases hpadded.split with ⟨z, s, hsplit, hz, -⟩
      exact hnone z ⟨s, hsplit.symm⟩ (hy.of_padded hz)
    · -- A shorter block would lie inside the span and be there already.
      intro y hpre hy
      by_contra hlt
      have hinside : y <+: x :=
        List.prefix_of_prefix_length_le hpre (List.prefix_append x rest') (by omega)
      have := hshort y (hinside.trans (List.prefix_append x rest)) hy
      omega

theorem Bare.of_padded {gap gap' rest rest' : List Char} (hbare : Bare gap rest)
    (hgap : Padded gap gap') (hrest : Padded rest rest') : Bare gap' rest' := by
  intro front behind hsplit hne hopens
  rw [hsplit] at hgap
  rcases hgap.split with ⟨before, inner, rfl, -, hinner⟩
  have hopens' : Opens (inner ++ rest) := hopens.of_padded (hinner.append hrest)
  refine hbare before inner rfl ?_ hopens'
  -- The bracket with which it begins is none of the backslashes.
  rcases hopens.exists_cons with ⟨r, hr⟩
  cases behind with
  | nil => exact absurd rfl hne
  | cons a behind =>
    obtain rfl : a = '<' := (List.cons.inj hr).1
    rintro rfl
    exact absurd (hinner.split_of_not_mem (u := ['<']) (by decide)) (by simp)

/-- The spans of a text whose gaps are padded are those of the text, with the padded gaps between
them. -/
theorem Cut.padded {pad : List Char → List Char} (hpad : ∀ gap, Padded gap (pad gap))
    {text : List Char} {gaps spans : List (List Char)} (h : Cut text gaps spans) :
    Padded text (interleave (gaps.map pad) spans) ∧
      Cut (interleave (gaps.map pad) spans) (gaps.map pad) spans := by
  induction h with
  | @last gap hbare =>
    have hone : interleave ([gap].map pad) [] = pad gap := by simp [interleave]
    rw [hone]
    exact ⟨hpad gap, .last (hbare.of_padded (hpad gap) .nil)⟩
  | @next gap x rest gaps spans hbare hspan h ih =>
    rcases ih with ⟨hpadded, hcut⟩
    have hbehind := (Padded.refl x).append hpadded
    rw [List.map_cons, interleave]
    exact ⟨(hpad gap).append hbehind,
      .next (hbare.of_padded (hpad gap) hbehind) (hspan.of_padded hpadded) hcut⟩

end Protection

open Protection

theorem padded_escapeAllDelimiters (text : List Char) : Padded text (escapeAllDelimiters text) :=
  (escapes_escapeAllDelimiters text).padded

/-- Escaping inline entities puts escaped gaps between the spans of a text. -/
theorem escapeCommon_eq_interleave (text : List Char) :
    escapeCommon text =
      interleave ((gapTexts (splitSegments Protection.pattern text)).map escapeAllDelimiters)
        (matchTexts (splitSegments Protection.pattern text)) := by
  rw [escapeCommon, replaceWhen_eq_flatMap _ escapeAllDelimiters_nil, splitSegments,
    flatMap_ofMatches escapeAllDelimiters_nil]

theorem padded_escapeCommon (text : List Char) : Padded text (escapeCommon text) := by
  rw [escapeCommon_eq_interleave]
  exact ((cut_splitSegments text).padded padded_escapeAllDelimiters).1

/-- The result has the same spans, with the escaped gaps between them. -/
theorem cut_escapeCommon (text : List Char) :
    Cut (escapeCommon text)
      ((gapTexts (splitSegments Protection.pattern text)).map escapeAllDelimiters)
      (matchTexts (splitSegments Protection.pattern text)) := by
  rw [escapeCommon_eq_interleave]
  exact ((cut_splitSegments text).padded padded_escapeAllDelimiters).2

/-- Escaping the leading marker changes nothing but the first gap. -/
theorem matchTexts_escapeLeading (text : List Char) :
    matchTexts (splitSegments Protection.pattern (escapeLeading text)) =
      matchTexts (splitSegments Protection.pattern text) := by
  rcases escapeLeading_cases text with h | ⟨blanks, marker, rest, htext, hblanks, hmarker, h⟩
  · rw [h]
  · have hcut := cut_splitSegments rest
    rcases exists_gapTexts_eq_cons (splitSegments Protection.pattern rest) with ⟨gap, gaps, hgaps⟩
    rw [hgaps] at hcut
    have hnone : '<' ∉ blanks ++ marker := by
      intro hmem
      rcases List.mem_append.1 hmem with hmem | hmem
      · exact absurd (hblanks _ hmem) (by decide)
      · exact hmarker.not_mem hmem
    have hnone' : '<' ∉ escapeMarker :: marker := by
      rw [List.mem_cons, not_or]
      exact ⟨by decide, hmarker.not_mem⟩
    have hbefore := (hcut.prepend hnone).splitSegments_eq.2
    have hafter := (hcut.prepend hnone').splitSegments_eq.2
    rw [List.append_assoc, ← htext] at hbefore
    rw [List.cons_append, ← h] at hafter
    rw [hafter, hbefore]

/-- Escaping neither makes nor breaks nor moves a protected span: the matched segments of the result
are those of the text, and between them lies what lay there, escaped by the rules alone. A leading
marker that is escaped as well changes nothing about the spans. -/
theorem escape_preserves_spans (text : List Char) :
    matchTexts (splitSegments Protection.pattern (escapeCommon text)) =
      matchTexts (splitSegments Protection.pattern text) ∧
    gapTexts (splitSegments Protection.pattern (escapeCommon text)) =
      (gapTexts (splitSegments Protection.pattern text)).map escapeAllDelimiters ∧
    matchTexts (splitSegments Protection.pattern (escapeAll text)) =
      matchTexts (splitSegments Protection.pattern text) := by
  have hcut := (cut_escapeCommon text).splitSegments_eq
  refine ⟨hcut.2, hcut.1, ?_⟩
  rw [escapeAll, matchTexts_escapeLeading, hcut.2]

end LiteralMarkdown
