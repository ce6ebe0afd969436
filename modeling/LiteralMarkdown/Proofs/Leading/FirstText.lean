import LiteralMarkdown.Proofs.Front
import LiteralMarkdown.Proofs.Leading.Blanks
import LiteralMarkdown.Proofs.Marking.Parity

/-!
# The text that comes first in its parent

Such a text has its inline entities escaped first and then the marker that opens the result. The
second step finds no more than the first one has left there. A marker that is still to be seen has
no backslash before it, so it opens the text as well, behind the same blanks, and it has not been
escaped yet. Three backticks are never left: whatever lies behind them, the rule for backticks has
escaped the first one.

* `head?_escapeCommon_fence`: what becomes of three backticks at the beginning of a text;
* `escapeAll_eq_or_split`: all that becomes of a text that comes first in its parent.
-/

namespace LiteralMarkdown

open Glyph EscapeRule Protection

/-! ## A fence -/

/-- The first of several backticks is escaped. -/
theorem head?_escapeDelimiters_backtickCode {rest : List Char} (h : '\x60' ∈ rest) :
    (escapeDelimiters .backtickCode ('\x60' :: rest)).head? = some escapeMarker := by
  have hmarks := (recognizes_backtickCode.marking ('\x60' :: rest)).eq_markFirst
  have hcount : 0 < 2 * (('\x60' :: rest).count '\x60' / 2) := by
    have hpos := List.count_pos_iff.2 h
    rw [List.count_cons_self]
    omega
  rw [← shown_marks, hmarks, markFirst, if_pos rfl, decide_eq_true hcount]
  rfl

/-- The rules before the one for backticks pass over a fence, and the one behind it passes over the
backslash. -/
theorem head?_escapeAllDelimiters_fence (rest : List Char) :
    (escapeAllDelimiters (fence ++ rest)).head? = some escapeMarker := by
  simp only [escapeAllDelimiters, EscapeRule.all, List.foldl_cons, List.foldl_nil]
  rw [recognizes_asteriskEmphasis.escapeDelimiters_append (by decide),
    recognizes_underscoreEmphasis.escapeDelimiters_append (by decide),
    recognizes_underscoreStrong.escapeDelimiters_append (by decide),
    recognizes_tildeStrikethrough.escapeDelimiters_append (by decide)]
  generalize escapeDelimiters .tildeStrikethrough _ = rest'
  have hhead : (escapeDelimiters .backtickCode (fence ++ rest')).head? = some escapeMarker :=
    head?_escapeDelimiters_backtickCode List.mem_cons_self
  rcases List.head?_eq_some_iff.1 hhead with ⟨behind, hbehind⟩
  rw [hbehind, ← List.singleton_append,
    recognizes_bracketLink.escapeDelimiters_append (by decide)]
  rfl

/-- A text that a fence opens begins with a backslash when its entities are escaped, also with
protected text further on. -/
theorem head?_escapeCommon_fence (rest : List Char) :
    (escapeCommon (fence ++ rest)).head? = some escapeMarker := by
  rcases exists_escapeCommon_append rest with ⟨gap, behind, hescaped⟩
  rw [hescaped fence (by decide), List.head?_append, head?_escapeAllDelimiters_fence]
  rfl

/-! ## The marker that is left -/

/-- A marker that opens an escaped text opened the text before, behind the same blanks, and it is no
fence. -/
theorem exists_of_escapeCommon_eq {text blanks marker rest : List Char}
    (h : escapeCommon text = blanks ++ (marker ++ rest))
    (hblanks : ∀ a ∈ blanks, Text.isBlank a = true) (hmarker : IsMarker marker) :
    ∃ rest', text = blanks ++ (marker ++ rest') ∧
      escapeCommon (marker ++ rest') = marker ++ rest ∧ '\x60' ∉ marker := by
  have hpadded := padded_escapeCommon text
  rw [h, ← List.append_assoc] at hpadded
  rcases hpadded.split_of_not_mem (escapeMarker_not_mem_leading hblanks hmarker) with
    ⟨rest', rfl, -⟩
  rw [List.append_assoc, escapeCommon_blanks_append hblanks] at h
  have hescaped := List.append_cancel_left h
  refine ⟨rest', List.append_assoc .., hescaped, fun hmem => ?_⟩
  rcases hmarker with ⟨a, ha, rfl⟩ | ⟨n, -, rfl⟩ | ⟨n, hn, rfl⟩
  · rw [← List.mem_singleton.1 hmem] at ha
    exact absurd ha (by decide)
  · exact absurd (List.eq_of_mem_replicate hmem) (by decide)
  · -- A fence would have been escaped.
    obtain ⟨m, rfl⟩ := Nat.exists_eq_add_of_le hn
    rw [← List.replicate_append_replicate, List.append_assoc, List.append_assoc] at hescaped
    have hhead := head?_escapeCommon_fence (List.replicate m '\x60' ++ rest')
    rw [fence, hescaped] at hhead
    have hsame : '\x60' = escapeMarker := Option.some.inj hhead
    exact absurd hsame (by decide)

/-! ## What becomes of a text -/

/-- A text that comes first in its parent has its inline entities escaped and nothing else, if no
marker is left then; or else it has lost blanks at its beginning and got a backslash in their place,
before four spaces or before a sign that is not escaped already. The marker is never a fence. -/
theorem escapeAll_eq_or_split (text : List Char) :
    (leadingMarker.occursIn (escapeCommon text) = false ∧ escapeAll text = escapeCommon text ∨
      ∃ blanks rest, text = blanks ++ rest ∧ (∀ a ∈ blanks, Text.isBlank a = true) ∧
        escapeAll text = escapeMarker :: escapeCommon rest ∧
        (indent <+: rest ∨ ∃ a ∈ ['-', '#', '*', '>', '=', '|'],
          rest.head? = some a ∧ (escapeCommon rest).head? = some a)) ∧
    ∀ m ∈ leadingMarker.matchesIn (escapeCommon text),
      ∃ marker, m.group? (.number 1) = some marker ∧ '\x60' ∉ marker := by
  constructor
  · by_cases hleft : HasMarker (escapeCommon text)
    · right
      rcases escapeLeading_of_hasMarker hleft with
        ⟨blanks, marker, rest, htext, hblanks, hmarker, hescaped, -⟩
      rcases exists_of_escapeCommon_eq htext hblanks hmarker with
        ⟨rest', hsplit, hcommon, hfence⟩
      refine ⟨blanks, marker ++ rest', hsplit, hblanks, ?_, ?_⟩
      · rw [escapeAll, hescaped, hcommon]
      · rw [hcommon]
        rcases hmarker with ⟨a, ha, rfl⟩ | ⟨n, hn, rfl⟩ | ⟨n, hn, rfl⟩
        · exact Or.inr ⟨a, ha, rfl, rfl⟩
        · obtain ⟨m, rfl⟩ := Nat.exists_eq_add_of_le hn
          rw [← List.replicate_append_replicate, List.append_assoc]
          exact Or.inl (List.prefix_append ..)
        · have hmem : '\x60' ∈ List.replicate n '\x60' :=
            List.mem_replicate.2 ⟨by omega, rfl⟩
          exact absurd hmem hfence
    · left
      refine ⟨?_, escapeLeading_of_not_hasMarker hleft⟩
      rwa [← Bool.not_eq_true, occursIn_leadingMarker_iff]
  · intro m hm
    rcases exists_marker_of_mem_matchesIn hm with
      ⟨blanks, marker, rest, htext, hblanks, hmarker, hgroup⟩
    rcases exists_of_escapeCommon_eq htext hblanks hmarker with ⟨-, -, -, hfence⟩
    exact ⟨marker, hgroup, hfence⟩

-- An asterisk is escaped once, whether it delimits an emphasis or opens a list.
example : escapeAll "*a*".toList = "\\*a\\*".toList ∧ escapeAll " * a".toList = "\\* a".toList := by
  decide

end LiteralMarkdown
