import LiteralMarkdown.Proofs.Segments
import Mathlib.Algebra.Ring.Nat

/-!
# How matches divide a text

What the segments of a text are follows from the order of the matches alone: each lies in the text
where it says, and none begins before the one before it ends. Empty matches may lie anywhere among
the others, also right behind one or at the place where one begins; they make no segment.

* `InOrder`: the matches of a text in ascending order, without overlaps;
* `Divides`: the segments cover the text, and the matched ones are the matches that are not empty;
* `divides_splitSegments`: matches in order divide a text, and those of a pattern are in order.
-/

namespace LiteralMarkdown

namespace Segment

/-- The matches lie in the text where they say, in ascending order and without overlaps. Any of them
may be empty. -/
structure InOrder (text : List Char) (ms : List Match) : Prop where
  inside : ∀ m ∈ ms, ∃ before behind, text = before ++ (m.text ++ behind) ∧ m.start = before.length
  ascending : ms.Pairwise fun m later => m.start + m.text.length ≤ later.start

/-- The segment that a match makes. -/
def ofMatch (m : Match) : Segment := ⟨m.start, m.text, true⟩

/-- Of two segments that follow each other one is matched. -/
def Apart (segments : List Segment) : Prop :=
  segments.IsChain fun s next => s.isMatch = true ∨ next.isMatch = true

/-- The segments divide the text by the matches. -/
structure Divides (text : List Char) (ms : List Match) (segments : List Segment) : Prop where
  /-- Nothing of the text is lost and nothing added. -/
  covers : segments.flatMap Segment.text = text
  ne_nil : ∀ s ∈ segments, s.text ≠ []
  /-- A segment begins where those before it end. -/
  index : ∀ before s behind, segments = before ++ s :: behind →
    s.index = (before.map fun earlier => earlier.text.length).sum
  /-- Every match that is not empty is a segment, and no other segment is matched. -/
  matched : segments.filter Segment.isMatch = (ms.filter fun m => !m.text.isEmpty).map ofMatch
  /-- Unmatched segments reach as far as they can. -/
  apart : Apart segments

/-! ## Matches in order -/

theorem InOrder.of_cons {text : List Char} {m : Match} {ms : List Match}
    (h : InOrder text (m :: ms)) : InOrder text ms where
  inside := fun m' hm' => h.inside m' (List.mem_cons_of_mem m hm')
  ascending := h.ascending.of_cons

/-- Matches in order are placed one behind the other in what lies ahead of them. -/
theorem InOrder.placed {ms : List Match} {front rest : List Char} (h : InOrder (front ++ rest) ms)
    (hfront : ∀ m ∈ ms, front.length ≤ m.start) : Placed front.length rest ms := by
  induction ms generalizing front rest with
  | nil => exact .nil
  | cons m ms ih =>
    rcases h.inside m List.mem_cons_self with ⟨before, behind, htext, hstart⟩
    have hle : front.length ≤ before.length := by
      rw [← hstart]
      exact hfront m List.mem_cons_self
    -- What stands before the match is the front and a gap behind it.
    have hprefix : front <+: before :=
      List.prefix_of_prefix_length_le (List.prefix_append front rest) ⟨_, htext.symm⟩ hle
    rcases hprefix with ⟨gap, rfl⟩
    rw [List.append_assoc] at htext
    have hrest : rest = gap ++ (m.text ++ behind) := List.append_cancel_left htext
    have hend : (front ++ gap ++ m.text).length = m.start + m.text.length := by
      rw [List.length_append, hstart]
    have hnext : Placed (front ++ gap ++ m.text).length behind ms := by
      apply ih
      · have hsplit : front ++ gap ++ m.text ++ behind = front ++ rest := by
          rw [hrest]
          simp
        rw [hsplit]
        exact h.of_cons
      · intro m' hm'
        rw [hend]
        exact (List.pairwise_cons.1 h.ascending).1 m' hm'
    rw [hend] at hnext
    rw [hrest]
    exact .cons (by rw [hstart, List.length_append]) hnext

/-- Matches in order are placed in the whole text. -/
theorem InOrder.placed_whole {text : List Char} {ms : List Match} (h : InOrder text ms) :
    Placed 0 text ms := @InOrder.placed ms [] text h fun m _ => Nat.zero_le m.start

/-- Matches that are placed one behind the other are in order. -/
theorem Placed.inOrder {index : Nat} {rest : List Char} {ms : List Match}
    (h : Placed index rest ms) {front : List Char} (hfront : front.length = index) :
    InOrder (front ++ rest) ms := by
  induction h generalizing front with
  | nil =>
    refine ⟨fun m hm => ?_, List.Pairwise.nil⟩
    exact absurd hm List.not_mem_nil
  | @cons index m gap rest ms hstart next ih =>
    have hbefore : (front ++ gap).length = m.start := by rw [List.length_append, hfront, hstart]
    have hend : (front ++ gap ++ m.text).length = m.start + m.text.length := by
      rw [List.length_append, hbefore]
    have hsplit : front ++ gap ++ m.text ++ rest = front ++ (gap ++ (m.text ++ rest)) := by simp
    have horder := ih hend
    rw [hsplit] at horder
    refine ⟨?_, List.pairwise_cons.2 ⟨next.le_start, horder.ascending⟩⟩
    intro m' hm'
    rcases List.mem_cons.1 hm' with rfl | hm'
    · exact ⟨front ++ gap, rest, by rw [List.append_assoc], hbefore.symm⟩
    · exact horder.inside m' hm'

/-- A scan finds the matches of a text in order. -/
theorem inOrder_matchesIn (p : Pattern) (text : List Char) : InOrder text (p.matchesIn text) := by
  have hplaced : Placed 0 text (p.matchesIn text) := (p.run_scan text).placed
  exact @Placed.inOrder 0 text _ hplaced [] rfl

/-! ## The segments of matches in order -/

theorem Tiles.ne_nil {index : Nat} {text : List Char} {segments : List Segment}
    (h : Tiles index text segments) : ∀ s ∈ segments, s.text ≠ [] := by
  induction h with
  | nil =>
    intro s hs
    exact absurd hs List.not_mem_nil
  | cons hindex hne next ih =>
    intro s hs
    rcases List.mem_cons.1 hs with rfl | hs
    · exact hne
    · exact ih s hs

theorem filter_isMatch_ofMatches (ms : List Match) (index : Nat) (rest : List Char) :
    (ofMatches index rest ms).filter Segment.isMatch =
      (ms.filter fun m => !m.text.isEmpty).map ofMatch := by
  have hgap (gap : List Char) (index : Nat) :
      (unmatched index gap).filter Segment.isMatch = [] := by
    cases gap <;> rfl
  induction ms generalizing index rest with
  | nil => exact hgap rest index
  | cons m ms ih =>
    rw [ofMatches]
    by_cases hempty : m.text.isEmpty = true
    · rw [if_pos hempty, ih, List.filter_cons_of_neg (by simp [hempty])]
    · rw [if_neg hempty, List.filter_append, hgap, List.nil_append,
        List.filter_cons_of_pos rfl, ih, List.filter_cons_of_pos (by simp [hempty])]
      rfl

theorem Apart.cons_ofMatch {segments : List Segment} (h : Apart segments) (m : Match) :
    Apart (ofMatch m :: segments) := by
  cases segments with
  | nil => exact .singleton (ofMatch m)
  | cons next segments => exact .cons_cons (Or.inl rfl) h

theorem Apart.unmatched_append {segments : List Segment} {m : Match}
    (h : Apart (ofMatch m :: segments)) (index : Nat) (gap : List Char) :
    Apart (unmatched index gap ++ ofMatch m :: segments) := by
  cases gap with
  | nil => exact h
  | cons a gap => exact .cons_cons (Or.inr rfl) h

theorem apart_ofMatches (ms : List Match) (index : Nat) (rest : List Char) :
    Apart (ofMatches index rest ms) := by
  induction ms generalizing index rest with
  | nil =>
    cases rest with
    | nil => exact .nil
    | cons a rest => exact List.IsChain.singleton (⟨index, a :: rest, false⟩ : Segment)
  | cons m ms ih =>
    rw [ofMatches]
    split
    · exact ih index rest
    · exact ((ih _ _).cons_ofMatch m).unmatched_append index _

theorem InOrder.divides_ofMatches {text : List Char} {ms : List Match} (h : InOrder text ms) :
    Divides text ms (ofMatches 0 text ms) := by
  have htiles := h.placed_whole.tiles_ofMatches
  constructor
  case covers => exact htiles.flatMap_text
  case ne_nil => exact htiles.ne_nil
  case index =>
    intro before s behind hsplit
    rw [hsplit] at htiles
    rw [htiles.index_eq, Nat.zero_add, List.length_flatMap]
  case matched => exact filter_isMatch_ofMatches ms 0 text
  case apart => exact apart_ofMatches ms 0 text

end Segment

open Segment

/-- Whatever matches are found, in order and without overlaps, the segments made of them divide the
text by them; and a pattern finds its matches so. -/
theorem divides_splitSegments (text : List Char) :
    (∀ ms, InOrder text ms → Divides text ms (ofMatches 0 text ms)) ∧
      ∀ p : Pattern, InOrder text (p.matchesIn text) ∧
        Divides text (p.matchesIn text) (splitSegments p text) := by
  constructor
  · intro ms h
    exact h.divides_ofMatches
  · intro p
    have horder := inOrder_matchesIn p text
    exact ⟨horder, horder.divides_ofMatches⟩

/-- A match at each end of a text, empty ones before and behind them, and two that touch. -/
theorem divides_splitSegments_touching :
    let found (start : Nat) (text : String) : Match := ⟨start, text.toList, []⟩
    let ms := [found 0 "", found 0 "ab", found 2 "", found 2 "c", found 4 "", found 5 "f",
      found 6 ""]
    InOrder "abcdef".toList ms ∧
      ofMatches 0 "abcdef".toList ms = [⟨0, "ab".toList, true⟩, ⟨2, "c".toList, true⟩,
        ⟨3, "de".toList, false⟩, ⟨5, "f".toList, true⟩] ∧
      Divides "abcdef".toList ms (ofMatches 0 "abcdef".toList ms) := by
  intro found ms
  have horder : InOrder "abcdef".toList ms := by
    constructor
    · intro m hm
      refine ⟨"abcdef".toList.take m.start, "abcdef".toList.drop (m.start + m.text.length), ?_⟩
      revert m
      decide
    · decide
  exact ⟨horder, by decide, (divides_splitSegments "abcdef".toList).1 ms horder⟩

end LiteralMarkdown
