import LiteralMarkdown.Proofs.Forms.Recognition
import Mathlib.Algebra.Ring.Parity

/-!
# Parity of backticks

Backticks may enclose nothing, so it does not matter how they stand in runs: they are escaped from
the first one on, an even number of them, as many as there are. An entity takes as many delimiters
to open as to close, and between its two runs there are none; and where no entity begins at a
backtick, it is the last one.

* `Form.Marking.eq_markFirst`: a form whose bodies may be empty marks all delimiters but an odd one;
* `escapeDelimiters_backtickCode`: so the rule for backticks escapes all of them, or all but the
  last one.
-/

namespace LiteralMarkdown

open Glyph

/-! ## The first occurrences of a character -/

/-- The positions of the first `k` occurrences of a character in a text. -/
def firstPositions (d : Char) (k : Nat) (text : List Char) : Finset Nat :=
  (Finset.range text.length).filter fun i => text[i]? = some d ∧ (text.take i).count d < k

theorem mem_firstPositions {d : Char} {k : Nat} {text : List Char} {i : Nat} :
    i ∈ firstPositions d k text ↔ text[i]? = some d ∧ (text.take i).count d < k := by
  rw [firstPositions, Finset.mem_filter, Finset.mem_range]
  constructor
  · exact fun h => h.2
  · exact fun h => ⟨(List.getElem?_eq_some_iff.1 h.1).1, h⟩

/-- An occurrence lies between those before it and those behind it. -/
theorem count_eq_of_getElem? {d : Char} {text : List Char} {i : Nat} (h : text[i]? = some d) :
    text.count d = (text.take i).count d + (1 + (text.drop (i + 1)).count d) := by
  rcases List.getElem?_eq_some_iff.1 h with ⟨hi, rfl⟩
  have hsplit := List.take_append_drop i text
  rw [List.drop_eq_getElem_cons hi] at hsplit
  have hcount := congrArg (List.count text[i]) hsplit
  rw [List.count_append, List.count_cons_self] at hcount
  omega

namespace Glyph

/-- A text with the first `k` occurrences of a character marked. -/
def markFirst (d : Char) : (k : Nat) → List Char → List Glyph
  | _, [] => []
  | k, a :: rest =>
    if a = d then ⟨a, decide (0 < k)⟩ :: markFirst d (k - 1) rest
    else ⟨a, false⟩ :: markFirst d k rest

variable {d : Char}

theorem markFirst_append (k : Nat) (x y : List Char) :
    markFirst d k (x ++ y) = markFirst d k x ++ markFirst d (k - x.count d) y := by
  induction x generalizing k with
  | nil => simp [markFirst]
  | cons a x ih =>
    rw [List.cons_append, markFirst, markFirst, List.count_cons]
    by_cases ha : a = d
    · rw [if_pos ha, if_pos ha, ih, List.cons_append]
      simp [ha, Nat.sub_sub, Nat.add_comm]
    · rw [if_neg ha, if_neg ha, ih, List.cons_append]
      simp [ha]

theorem markFirst_of_not_mem {k : Nat} {x : List Char} (hx : d ∉ x) :
    markFirst d k x = ofText false x := by
  induction x with
  | nil => rfl
  | cons a x ih =>
    rw [markFirst, if_neg (List.ne_of_not_mem_cons hx).symm,
      ih (List.not_mem_of_not_mem_cons hx)]
    rfl

theorem markFirst_replicate {k n : Nat} (h : n ≤ k) :
    markFirst d k (List.replicate n d) = List.replicate n ⟨d, true⟩ := by
  induction n generalizing k with
  | zero => rfl
  | succ n ih =>
    rw [List.replicate_succ, List.replicate_succ, markFirst, if_pos rfl, ih (by omega)]
    simp only [decide_eq_true (show 0 < k by omega)]

/-- The marks lie at the first occurrences. -/
theorem positions_markFirst (k : Nat) (text : List Char) :
    positions (markFirst d k text) = firstPositions d k text := by
  ext i
  rw [mem_firstPositions, mem_positions]
  induction text generalizing k i with
  | nil => simp [markFirst]
  | cons a rest ih =>
    rw [markFirst]
    by_cases ha : a = d
    · rw [if_pos ha]
      cases i with
      | zero => simp [ha]
      | succ i =>
        -- The first character is an occurrence, so one less is to be marked behind it.
        have hrest := ih (k - 1) i
        simp only [List.getElem?_cons_succ, hrest, List.take_succ_cons, List.count_cons, ha,
          beq_self_eq_true, if_true]
        refine and_congr_right fun _ => ?_
        omega
    · rw [if_neg ha]
      cases i with
      | zero => simp [ha]
      | succ i => simpa [List.count_cons, ha] using ih k i

end Glyph

/-! ## Forms whose bodies may be empty -/

namespace Form

variable {d : Char}

/-- Where no entity begins at a delimiter, no other one follows it. -/
theorem not_mem_of_absent {rest : List Char}
    (h : (paired d 1 true Nat.one_pos).Absent (d :: rest)) : d ∉ rest := by
  intro hmem
  rcases List.eq_append_cons_of_mem hmem with ⟨body, behind, rfl, hbody⟩
  exact h 1 body 1 behind ⟨rfl, Nat.le_refl 1, rfl, hbody, fun _ => rfl⟩

/-- All delimiters are marked, but for the last one if their number is odd. -/
theorem Marking.eq_markFirst {text : List Char} {gs : List Glyph}
    (h : (paired d 1 true Nat.one_pos).Marking text gs) :
    gs = markFirst d (2 * (text.count d / 2)) text := by
  induction h with
  | stop => rfl
  | @skip a rest gs hnone next ih =>
    by_cases ha : a = d
    · subst ha
      -- The last delimiter has none to be paired with.
      have hrest := not_mem_of_absent hnone
      rw [ih, markFirst, if_pos rfl, List.count_cons_self, List.count_eq_zero.2 hrest]
      rfl
    · rw [ih, markFirst, if_neg ha, List.count_cons_of_ne ha]
  | @take text body behind n k gs hat hmost next ih =>
    rcases hat with ⟨rfl, -, rfl, hbody, -⟩
    have hcount : (List.replicate k d ++ (body ++ (List.replicate k d ++ behind))).count d =
        2 * k + behind.count d := by
      simp only [List.count_append, List.count_replicate_self, List.count_eq_zero.2 hbody]
      omega
    -- The entity takes the first `2 * k` of the marks, which are `k` on each side.
    have hmarks : 2 * ((2 * k + behind.count d) / 2) = k + (k + 2 * (behind.count d / 2)) := by
      omega
    show marked _ k body k ++ gs = markFirst d (2 * (List.count d (List.replicate k d ++
      (body ++ (List.replicate k d ++ behind))) / 2)) _
    rw [hcount, hmarks, ih]
    show _ = markFirst d _ (List.replicate k d ++ (body ++ (List.replicate k d ++ behind)))
    rw [markFirst_append, markFirst_replicate (Nat.le_add_right ..), List.count_replicate_self,
      Nat.add_sub_cancel_left, markFirst_append, markFirst_of_not_mem hbody,
      List.count_eq_zero.2 hbody, Nat.sub_zero, markFirst_append,
      markFirst_replicate (Nat.le_add_right ..), List.count_replicate_self,
      Nat.add_sub_cancel_left]
    simp [marked, paired]

end Form

/-! ## The rule -/

/-- Of the backticks of a text the first ones are escaped, an even number of them and as many as
there are: all of them, or all but the last one. -/
theorem escapeDelimiters_backtickCode (text : List Char) :
    escapeDelimiters .backtickCode text =
      escapedAt (firstPositions '\x60' (2 * (text.count '\x60' / 2)) text) text ∧
    (Even (text.count '\x60') → ∀ i, text[i]? = some '\x60' →
      i ∈ firstPositions '\x60' (2 * (text.count '\x60' / 2)) text) ∧
    (Odd (text.count '\x60') → ∀ i, text[i]? = some '\x60' →
      (i ∈ firstPositions '\x60' (2 * (text.count '\x60' / 2)) text ↔
        '\x60' ∈ text.drop (i + 1))) := by
  refine ⟨?_, ?_, ?_⟩
  · have hmarks := (EscapeRule.recognizes_backtickCode.marking text).eq_markFirst
    rw [← EscapeRule.shown_marks, shown_eq_escapedAt,
      EscapeRule.delimits_backtickCode.plain_marks, hmarks, positions_markFirst]
  · rintro ⟨m, hm⟩ i hi
    have hcount := count_eq_of_getElem? hi
    exact mem_firstPositions.2 ⟨hi, by omega⟩
  · rintro ⟨m, hm⟩ i hi
    have hcount := count_eq_of_getElem? hi
    rw [mem_firstPositions, ← List.count_pos_iff]
    constructor
    · rintro ⟨-, hlt⟩
      omega
    · intro hpos
      exact ⟨hi, by omega⟩

end LiteralMarkdown
