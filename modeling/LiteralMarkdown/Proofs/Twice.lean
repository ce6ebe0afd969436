import LiteralMarkdown.Proofs.Forms.Recurrence
import LiteralMarkdown.Proofs.Front

/-!
# Escaping twice

When a text is escaped a second time, its entities are escaped again, but a leading marker is not.
Escaping keeps the spans and with them the gaps, and in each gap a second run finds something just
if the first one did. So the second run changes nothing just if there was nothing to change in the
first one, apart from the leading marker. The main statement is `escape_twice_eq_iff`.
-/

namespace LiteralMarkdown

open Segment Protection

/-! ## Gap by gap -/

/-- Escaping leaves a text alone just if the rules leave its gaps alone. -/
theorem Protection.Cut.escapeCommon_eq_iff {text : List Char} {gaps spans : List (List Char)}
    (h : Cut text gaps spans) :
    escapeCommon text = text ↔ ∀ gap ∈ gaps, escapeAllDelimiters gap = gap := by
  constructor
  · intro hsame
    have hescaped := cut_escapeCommon text
    rw [hsame, h.splitSegments_eq.1] at hescaped
    have hgaps := (hescaped.unique h).1
    intro gap hgap
    exact List.map_inj_left.1 (hgaps.trans gaps.map_id.symm) gap hgap
  · intro hgaps
    have hmap : gaps.map escapeAllDelimiters = gaps :=
      (List.map_inj_left.2 hgaps).trans gaps.map_id
    rw [h.escapeCommon_eq, hmap, h.interleave_eq]

theorem escapeCommon_twice_iff (text : List Char) :
    escapeCommon (escapeCommon text) = escapeCommon text ↔ escapeCommon text = text := by
  rw [(cut_escapeCommon text).escapeCommon_eq_iff, (cut_splitSegments text).escapeCommon_eq_iff,
    List.forall_mem_map]
  exact forall₂_congr fun gap _ => escapeAllDelimiters_twice_iff gap

/-! ## The beginning of a text -/

/-- Whether the leading marker is escaped makes no difference to the entities: the blanks before it
and the backslash in their place are none of them. -/
theorem escapeCommon_escapeLeading_iff (text : List Char) :
    escapeCommon (escapeLeading text) = escapeLeading text ↔ escapeCommon text = text := by
  rcases escapeLeading_cases text with hsame | ⟨blanks, marker, rest, htext, hblanks, -, hescaped⟩
  · rw [hsame]
  · have hbefore : escapeCommon text = text ↔ escapeCommon (marker ++ rest) = marker ++ rest := by
      rw [htext, escapeCommon_blanks_append hblanks, List.append_right_inj]
    have hsign : ∀ a ∈ [escapeMarker], a ∉ entityChars :=
      List.forall_mem_singleton.2 (by decide)
    have hafter : escapeCommon (escapeLeading text) = escapeLeading text ↔
        escapeCommon (marker ++ rest) = marker ++ rest := by
      rw [hescaped, ← List.singleton_append, escapeCommon_append hsign (by decide),
        List.append_right_inj]
    rw [hafter, hbefore]

/-- Backslashes that are put in make no marker. -/
theorem HasMarker.of_padded {text padded : List Char} (h : HasMarker padded)
    (hpadded : Padded text padded) : HasMarker text := by
  rcases h with ⟨blanks, marker, rest, rfl, hblanks, hmarker⟩
  rw [← List.append_assoc] at hpadded
  have hnone := escapeMarker_not_mem_leading hblanks hmarker
  rcases hpadded.split_of_not_mem hnone with ⟨rest', rfl, -⟩
  exact ⟨blanks, marker, rest', List.append_assoc .., hblanks, hmarker⟩

/-- A second run finds no marker at the beginning: the first one has put a backslash before it. -/
theorem escapeAll_escapeAll (text : List Char) :
    escapeAll (escapeAll text) = escapeCommon (escapeAll text) := by
  refine (escapeLeading_eq_iff _).2 fun hmarker => ?_
  exact not_hasMarker_escapeLeading _ (hmarker.of_padded (padded_escapeCommon _))

/-! ## The law of double escaping -/

/-- Escaping a second time changes nothing just if there were no entities to escape in the first
place, whether leading markers are escaped as well or not: entities are always escaped again, and a
leading marker never is. -/
theorem escape_twice_eq_iff (text : List Char) :
    (escapeCommon (escapeCommon text) = escapeCommon text ↔ escapeCommon text = text) ∧
    (escapeAll (escapeAll text) = escapeAll text ↔ escapeCommon text = text) ∧
    escapeAll (escapeAll text) = escapeCommon (escapeAll text) := by
  refine ⟨escapeCommon_twice_iff text, ?_, escapeAll_escapeAll text⟩
  rw [escapeAll_escapeAll]
  exact (escapeCommon_escapeLeading_iff _).trans (escapeCommon_twice_iff text)

end LiteralMarkdown
