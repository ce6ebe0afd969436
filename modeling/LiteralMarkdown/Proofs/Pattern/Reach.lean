import LiteralMarkdown.Pattern.Ends
import Mathlib.Data.List.Basic

/-!
# Where a match can end

Whatever a pattern is, a match of it goes over a stretch of the text that lies ahead and ends behind
it. `Cursor.Reaches` says so of two cursors, and `Cursor.after` is the cursor behind a stretch when
no group keeps anything. The main statement is `Pattern.exists_reaches_of_mem_ends`.
-/

namespace LiteralMarkdown

namespace Cursor

/-- The cursor behind a text that lies ahead. Groups keep what they have kept. -/
def after (c : Cursor) (x : List Char) : Cursor :=
  ⟨c.position + x.length, x.getLast?.or c.previous, c.rest.drop x.length, c.captured⟩

/-- The text `x` lies ahead of `c`, and `e` is the place behind it. What groups have kept there is
left open. -/
structure Reaches (c : Cursor) (x : List Char) (e : Cursor) : Prop where
  rest : c.rest = x ++ e.rest
  position : e.position = c.position + x.length
  previous : e.previous = x.getLast?.or c.previous

theorem Reaches.refl (c : Cursor) : c.Reaches [] c := ⟨rfl, rfl, by simp⟩

theorem Reaches.trans {c d e : Cursor} {x y : List Char} (h : c.Reaches x d) (h' : d.Reaches y e) :
    c.Reaches (x ++ y) e where
  rest := by rw [h.rest, h'.rest, List.append_assoc]
  position := by rw [h'.position, h.position, List.length_append, Nat.add_assoc]
  previous := by rw [h'.previous, h.previous, List.getLast?_append, Option.or_assoc]

/-- What a group keeps does not move the cursor. -/
theorem Reaches.keep {c e : Cursor} {x : List Char} (h : c.Reaches x e) (d : Cursor)
    (label : Label) : c.Reaches x (d.keep label e) := ⟨h.rest, h.position, h.previous⟩

theorem Reaches.textTo_eq {c e : Cursor} {x : List Char} (h : c.Reaches x e) : c.textTo e = x := by
  have hlen : e.position - c.position = x.length := by
    have := h.position
    omega
  rw [textTo, hlen, h.rest, List.take_left]

theorem reaches_after {c : Cursor} {x : List Char} (h : x <+: c.rest) :
    c.Reaches x (c.after x) := by
  rcases h with ⟨r, hr⟩
  refine ⟨?_, rfl, rfl⟩
  simp only [after, ← hr, List.drop_left]

@[simp] theorem after_nil (c : Cursor) : c.after [] = c := by simp [after]

theorem after_append (c : Cursor) (x y : List Char) : c.after (x ++ y) = (c.after x).after y := by
  simp [after, Nat.add_assoc, List.getLast?_append, Option.or_assoc]

@[simp] theorem after_captured (c : Cursor) (x : List Char) :
    (c.after x).captured = c.captured := rfl

@[simp] theorem after_position (c : Cursor) (x : List Char) :
    (c.after x).position = c.position + x.length := rfl

theorem after_rest {c : Cursor} {x r : List Char} (h : c.rest = x ++ r) : (c.after x).rest = r := by
  simp [after, h]

/-- The place behind the first characters of a text, so many of them as `index` says. -/
def atIndex (text : List Char) (index : Nat) : Cursor := (atStart text).after (text.take index)

theorem rest_atIndex (text : List Char) (index : Nat) :
    (atIndex text index).rest = text.drop index :=
  after_rest (List.take_append_drop index text).symm

/-! ## Single steps -/

theorem step?_eq_some_iff {c e : Cursor} {allowed : CharSet} :
    c.step? allowed = some e ↔ ∃ x, allowed.has x = true ∧ [x] <+: c.rest ∧ e = c.after [x] := by
  cases hr : c.rest with
  | nil => simp [step?, hr]
  | cons y rest =>
    have hpass : c.pass y rest = c.after [y] := by simp [pass, after, hr]
    constructor
    · intro h
      by_cases hy : allowed.has y = true
      · simp only [step?, hr, hy, if_true, Option.some.injEq] at h
        exact ⟨y, hy, ⟨rest, rfl⟩, by rw [← h, hpass]⟩
      · simp [step?, hr, hy] at h
    · rintro ⟨x, hx, hpre, rfl⟩
      have hxy : x = y := by simpa using hpre
      subst hxy
      simp [step?, hr, hx, hpass]

theorem over?_eq_some_iff {x : List Char} {c e : Cursor} :
    over? x c = some e ↔ x <+: c.rest ∧ e = c.after x := by
  induction x generalizing c with
  | nil => simp [over?, eq_comm]
  | cons a x ih =>
    cases hr : c.rest with
    | nil => simp [over?, hr]
    | cons b rest =>
      have hpass : c.pass b rest = c.after [b] := by simp [pass, after, hr]
      by_cases hab : a = b
      · -- The first character lies ahead: the others have to lie behind it.
        subst hab
        have hsplit : c.after (a :: x) = (c.after [a]).after x := after_append c [a] x
        simp only [over?, hr, if_true, hpass, ih, hsplit, List.cons_prefix_cons, true_and]
        simp [after, hr]
      · simp [over?, hr, hab]

/-! ## All patterns -/

theorem exists_reaches_of_mem_timesEnds {ends : Cursor → List Cursor}
    (hends : ∀ c, ∀ e ∈ ends c, ∃ x, c.Reaches x e) (n : Nat) (c : Cursor) :
    ∀ e ∈ timesEnds ends n c, ∃ x, c.Reaches x e := by
  induction n generalizing c with
  | zero =>
    intro e he
    have : e = c := by simpa [timesEnds] using he
    exact ⟨[], this ▸ Reaches.refl c⟩
  | succ n ih =>
    intro e he
    rcases List.mem_flatMap.1 he with ⟨d, hd, he⟩
    rcases hends c d hd with ⟨x, hx⟩
    rcases ih d e he with ⟨y, hy⟩
    exact ⟨x ++ y, hx.trans hy⟩

/-- The ends of a repetition are its beginning, or ends of it from the end of a turn that got
further. -/
theorem mem_repeatEnds_cons {ends : Cursor → List Cursor} {greed : Greed} {a : Char}
    {fuel : List Char} {c e : Cursor} :
    e ∈ repeatEnds ends greed (a :: fuel) c ↔
      e = c ∨ ∃ d ∈ ends c, c.position < d.position ∧ e ∈ repeatEnds ends greed fuel d := by
  -- The two kinds of repetition list the same ends in a different order.
  cases greed with
  | greedy =>
    simp only [repeatEnds, List.mem_append, List.mem_flatMap, List.mem_filter, List.mem_singleton,
      decide_eq_true_eq, and_assoc, or_comm]
  | lazy =>
    simp only [repeatEnds, List.mem_cons, List.mem_flatMap, List.mem_filter, decide_eq_true_eq,
      and_assoc]

theorem exists_reaches_of_mem_repeatEnds {ends : Cursor → List Cursor} {greed : Greed}
    (hends : ∀ c, ∀ e ∈ ends c, ∃ x, c.Reaches x e) (fuel : List Char) (c : Cursor) :
    ∀ e ∈ repeatEnds ends greed fuel c, ∃ x, c.Reaches x e := by
  induction fuel generalizing c with
  | nil =>
    intro e he
    have : e = c := by simpa [repeatEnds] using he
    exact ⟨[], this ▸ Reaches.refl c⟩
  | cons a fuel ih =>
    intro e he
    rcases mem_repeatEnds_cons.1 he with rfl | ⟨d, hd, -, he⟩
    · exact ⟨[], Reaches.refl e⟩
    · rcases hends c d hd with ⟨x, hx⟩
      rcases ih d e he with ⟨y, hy⟩
      exact ⟨x ++ y, hx.trans hy⟩

end Cursor

namespace Pattern

open Cursor

theorem mem_ends_append {p q : Pattern} {c e : Cursor} :
    e ∈ (p ++ q).ends c ↔ ∃ d ∈ p.ends c, e ∈ q.ends d := List.mem_flatMap

/-- The ends of a sequence are those of its rest from the ends of its first part. -/
theorem ends_sequence_cons (p : Pattern) (ps : List Pattern) (c : Cursor) :
    (sequence (p :: ps)).ends c = (p.ends c).flatMap (sequence ps).ends := by
  cases ps with
  | nil => exact (List.flatMap_singleton' _).symm
  | cons q ps => rfl

theorem ends_sequence_append (ps qs : List Pattern) (c : Cursor) :
    (sequence (ps ++ qs)).ends c = ((sequence ps).ends c).flatMap (sequence qs).ends := by
  induction ps generalizing c with
  | nil => exact (List.flatMap_singleton ..).symm
  | cons p ps ih =>
    rw [List.cons_append, ends_sequence_cons, ends_sequence_cons, List.flatMap_assoc]
    exact List.flatMap_congr fun d _ => ih d

theorem mem_ends_group {label : Label} {body : Pattern} {c e : Cursor} :
    e ∈ (Pattern.group label body).ends c ↔ ∃ d ∈ body.ends c, e = c.keep label d := by
  simp only [ends, List.mem_map, eq_comm]

/-- A group matches what its body matches, and keeps just that. -/
theorem exists_reaches_of_mem_ends_group {label : Label} {body : Pattern} {c e : Cursor}
    (he : e ∈ (Pattern.group label body).ends c) :
    ∃ d ∈ body.ends c, ∀ x, c.Reaches x d → c.Reaches x e ∧
      ∃ kept : Capture, e.captured = (label, kept) :: d.captured ∧ kept.text = x := by
  rcases mem_ends_group.1 he with ⟨d, hd, rfl⟩
  exact ⟨d, hd, fun x hx => ⟨hx.keep c label, _, rfl, hx.textTo_eq⟩⟩

/-- A group is repeated where the text that it has kept lies ahead. -/
theorem mem_ends_backref {label : Label} {c e : Cursor} :
    e ∈ (Pattern.backref label).ends c ↔
      ∃ kept, c.captured.lookup label = some kept ∧ kept.text <+: c.rest ∧
        e = c.after kept.text := by
  have hsome : e ∈ (Pattern.backref label).ends c ↔ c.overCapture? label = some e := by simp [ends]
  rw [hsome, overCapture?]
  cases c.captured.lookup label with
  | none => simp
  | some kept => simp [over?_eq_some_iff]

theorem mem_ends_notAhead {body : Pattern} {c e : Cursor} :
    e ∈ (Pattern.notAhead body).ends c ↔ body.ends c = [] ∧ e = c := by
  simp only [ends, List.isEmpty_iff]
  split <;> simp_all

theorem mem_ends_wordBoundary {c e : Cursor} :
    e ∈ Pattern.wordBoundary.ends c ↔ c.atWordBoundary = true ∧ e = c := by
  simp only [ends]
  split <;> simp_all

theorem mem_ends_start {c e : Cursor} :
    e ∈ Pattern.start.ends c ↔ c.position = 0 ∧ e = c := by
  simp only [ends]
  split <;> simp_all

/-- A match goes over a stretch of the text ahead and ends behind it. -/
theorem exists_reaches_of_mem_ends (p : Pattern) :
    ∀ c, ∀ e ∈ p.ends c, ∃ x, c.Reaches x e := by
  induction p with
  | empty =>
    intro c e he
    have : e = c := by simpa [ends] using he
    exact ⟨[], this ▸ Reaches.refl c⟩
  | chars allowed =>
    intro c e he
    rcases step?_eq_some_iff.1 (by simpa [ends] using he) with ⟨x, -, hx, rfl⟩
    exact ⟨[x], reaches_after hx⟩
  | seq first second hf hs =>
    intro c e he
    rcases List.mem_flatMap.1 he with ⟨d, hd, he⟩
    rcases hf c d hd with ⟨x, hx⟩
    rcases hs d e he with ⟨y, hy⟩
    exact ⟨x ++ y, hx.trans hy⟩
  | alt first second hf hs =>
    intro c e he
    rcases List.mem_append.1 he with he | he
    · exact hf c e he
    · exact hs c e he
  | group label body hb =>
    intro c e he
    rcases mem_ends_group.1 he with ⟨d, hd, rfl⟩
    rcases hb c d hd with ⟨x, hx⟩
    exact ⟨x, hx.keep c label⟩
  | scope body hb => exact hb
  | backref label =>
    intro c e he
    rcases mem_ends_backref.1 he with ⟨kept, -, hx, rfl⟩
    exact ⟨kept.text, reaches_after hx⟩
  | atLeast least greed body hb =>
    -- First the turns that are asked for, then the ones that may follow.
    intro c e he
    rcases List.mem_flatMap.1 he with ⟨d, hd, he⟩
    rcases exists_reaches_of_mem_timesEnds hb least c d hd with ⟨x, hx⟩
    rcases exists_reaches_of_mem_repeatEnds hb d.rest d e he with ⟨y, hy⟩
    exact ⟨x ++ y, hx.trans hy⟩
  | optional body hb =>
    intro c e he
    rcases List.mem_append.1 he with he | he
    · exact hb c e he
    · have : e = c := by simpa using he
      exact ⟨[], this ▸ Reaches.refl c⟩
  | notAhead body =>
    intro c e he
    rcases mem_ends_notAhead.1 he with ⟨-, rfl⟩
    exact ⟨[], Reaches.refl e⟩
  | wordBoundary =>
    intro c e he
    rcases mem_ends_wordBoundary.1 he with ⟨-, rfl⟩
    exact ⟨[], Reaches.refl e⟩
  | start =>
    intro c e he
    rcases mem_ends_start.1 he with ⟨-, rfl⟩
    exact ⟨[], Reaches.refl e⟩

/-- A lazy repetition of a set lists its ends in the order of their places. -/
theorem pairwise_repeatEnds_lazy (allowed : CharSet) (fuel : List Char) (c : Cursor) :
    (repeatEnds (Pattern.chars allowed).ends .lazy fuel c).Pairwise
      fun d e => d.position ≤ e.position := by
  induction fuel generalizing c with
  | nil => exact List.pairwise_singleton ..
  | cons a fuel ih =>
    rw [repeatEnds]
    refine List.pairwise_cons.2 ⟨fun e he => ?_, ?_⟩
    · rcases List.mem_flatMap.1 he with ⟨d, hd, he⟩
      have hlt : c.position < d.position := by simpa using (List.mem_filter.1 hd).2
      obtain ⟨x, hx⟩ := exists_reaches_of_mem_repeatEnds
        (exists_reaches_of_mem_ends (.chars allowed)) fuel d e he
      have := hx.position
      omega
    · -- A set has one end at most.
      cases hstep : c.step? allowed with
      | none => simp [ends, hstep]
      | some d =>
        by_cases hpos : c.position < d.position
        · simpa [ends, hstep, hpos] using ih d
        · simp [ends, hstep, hpos]

/-- A greedy repetition of a set lists its ends in the opposite order of their places. -/
theorem pairwise_repeatEnds_greedy (allowed : CharSet) (fuel : List Char) (c : Cursor) :
    (repeatEnds (Pattern.chars allowed).ends .greedy fuel c).Pairwise
      fun d e => e.position ≤ d.position := by
  induction fuel generalizing c with
  | nil => exact List.pairwise_singleton ..
  | cons a fuel ih =>
    rw [repeatEnds]
    refine List.pairwise_append.2 ⟨?_, List.pairwise_singleton .., ?_⟩
    · -- A set has one end at most.
      cases hstep : c.step? allowed with
      | none => simp [ends, hstep]
      | some d =>
        by_cases hpos : c.position < d.position
        · simpa [ends, hstep, hpos] using ih d
        · simp [ends, hstep, hpos]
    · -- All other ends lie further on than the place where the repetition begins.
      intro e he last hlast
      obtain rfl := List.mem_singleton.1 hlast
      rcases List.mem_flatMap.1 he with ⟨d, hd, he⟩
      have hlt : last.position < d.position := by simpa using (List.mem_filter.1 hd).2
      obtain ⟨x, hx⟩ := exists_reaches_of_mem_repeatEnds
        (exists_reaches_of_mem_ends (.chars allowed)) fuel d e he
      have := hx.position
      omega

theorem timesEnds_chars_eq_toList (allowed : CharSet) (n : Nat) (c : Cursor) :
    ∃ d : Option Cursor, timesEnds (Pattern.chars allowed).ends n c = d.toList := by
  induction n generalizing c with
  | zero => exact ⟨some c, rfl⟩
  | succ n ih =>
    rw [timesEnds, ends]
    cases c.step? allowed with
    | none => exact ⟨none, rfl⟩
    | some d =>
      rcases ih d with ⟨o, ho⟩
      exact ⟨o, by simpa using ho⟩

/-- A run of characters of a set is offered in full length first. -/
theorem pairwise_ends_atLeast_greedy (allowed : CharSet) (least : Nat) (c : Cursor) :
    ((Pattern.atLeast least .greedy (.chars allowed)).ends c).Pairwise
      fun d e => e.position ≤ d.position := by
  rw [ends]
  rcases timesEnds_chars_eq_toList allowed least c with ⟨o, ho⟩
  rw [ho]
  cases o with
  | none => exact .nil
  | some d => simpa using pairwise_repeatEnds_greedy allowed d.rest d

end Pattern

end LiteralMarkdown
