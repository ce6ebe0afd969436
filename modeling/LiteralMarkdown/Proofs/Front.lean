import LiteralMarkdown.Proofs.Order
import LiteralMarkdown.Proofs.Protection.Parts

/-!
# What stands in front of a text

Characters that belong to no entity and open no span stay as they are in front of a text, and the
text behind them is escaped as if nothing stood there.

* `EscapeRule.Recognizes.escapeDelimiters_append`: for one rule, characters other than its
  delimiter;
* `escapeCommon_append`: for all rules and protected text, characters that are no delimiter at all.
-/

namespace LiteralMarkdown

open Glyph Segment Protection

/-- In front of a text a rule passes over what holds no delimiter. -/
theorem EscapeRule.Recognizes.escapeDelimiters_append {rule : EscapeRule} {form : Form}
    (h : rule.Recognizes form) {front : List Char} (hfront : form.delimiter ∉ front)
    (text : List Char) :
    escapeDelimiters rule (front ++ text) = front ++ escapeDelimiters rule text := by
  have hskipped := (h.marking text).skip_free hfront
  have hmarks := (h.marking (front ++ text)).unique hskipped
  rw [← rule.shown_marks, hmarks, shown_append, shown_ofText_false, rule.shown_marks]

theorem escapeAllDelimiters_append {front : List Char} (hfront : ∀ a ∈ front, a ∉ entityChars)
    (text : List Char) :
    escapeAllDelimiters (front ++ text) = front ++ escapeAllDelimiters text := by
  have hrule : ∀ rule ∈ EscapeRule.all, ∀ text,
      escapeDelimiters rule (front ++ text) = front ++ escapeDelimiters rule text := by
    intro rule hrule text
    rcases exists_form_of_mem_all hrule with ⟨form, hform⟩
    rcases EscapeRule.recognizes_of_mem_withForms _ hform with ⟨hrecognizes, -, hmem⟩
    exact hrecognizes.escapeDelimiters_append (fun hdelimiter => hfront _ hdelimiter hmem) text
  unfold escapeAllDelimiters
  generalize EscapeRule.all = rules at hrule
  induction rules generalizing text with
  | nil => rfl
  | cons rule rules ih =>
    rw [List.foldl_cons, List.foldl_cons, hrule rule List.mem_cons_self]
    exact ih _ fun r hr => hrule r (List.mem_cons_of_mem rule hr)

/-- What stands in front of a text and opens no span is escaped with the first gap of the text. -/
theorem exists_escapeCommon_append (text : List Char) :
    ∃ gap rest, ∀ front, '<' ∉ front →
      escapeCommon (front ++ text) = escapeAllDelimiters (front ++ gap) ++ rest := by
  have hcut := cut_splitSegments text
  rcases exists_gapTexts_eq_cons (splitSegments Protection.pattern text) with ⟨gap, gaps, hgaps⟩
  rw [hgaps] at hcut
  -- Behind the first gap lies the same, whatever stands in front.
  have hrest : ∃ rest, ∀ first, interleave (first :: gaps.map escapeAllDelimiters)
      (matchTexts (splitSegments Protection.pattern text)) = first ++ rest := by
    cases matchTexts (splitSegments Protection.pattern text) with
    | nil => exact ⟨_, fun first => rfl⟩
    | cons x spans => exact ⟨_, fun first => rfl⟩
  rcases hrest with ⟨rest, hrest⟩
  refine ⟨gap, rest, fun front hopen => ?_⟩
  rw [(hcut.prepend hopen).escapeCommon_eq, List.map_cons, hrest]

/-- In front of a text characters that open no entity and no span stay as they are. -/
theorem escapeCommon_append {front : List Char} (hfront : ∀ a ∈ front, a ∉ entityChars)
    (hopen : '<' ∉ front) (text : List Char) :
    escapeCommon (front ++ text) = front ++ escapeCommon text := by
  rcases exists_escapeCommon_append text with ⟨gap, rest, hescaped⟩
  have htext := hescaped [] List.not_mem_nil
  rw [List.nil_append, List.nil_append] at htext
  rw [hescaped front hopen, escapeAllDelimiters_append hfront, htext, List.append_assoc]

theorem not_mem_entityChars_of_isBlank {a : Char} (ha : Text.isBlank a = true) :
    a ∉ entityChars := by
  have hnone : entityChars.all (fun b => !Text.isBlank b) = true := by decide
  intro hmem
  have hblank := List.all_eq_true.1 hnone a hmem
  rw [ha] at hblank
  cases hblank

/-- Blanks in front of a text stay as they are. -/
theorem escapeCommon_blanks_append {blanks : List Char}
    (hblanks : ∀ a ∈ blanks, Text.isBlank a = true) (text : List Char) :
    escapeCommon (blanks ++ text) = blanks ++ escapeCommon text := by
  refine escapeCommon_append (fun a ha => ?_) (fun hmem => ?_) text
  · exact not_mem_entityChars_of_isBlank (hblanks a ha)
  · exact absurd (hblanks _ hmem) (by decide)

end LiteralMarkdown
