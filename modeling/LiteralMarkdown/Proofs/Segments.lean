import LiteralMarkdown.Proofs.Pattern.Run
import LiteralMarkdown.Segment

/-!
# Segments

The segments into which a pattern cuts a text tile it: no segment is empty, each begins where the
one before it ends, and the texts of all of them, put together, are the text. `matchTexts` and
`gapTexts` tell the matched ones and what lies between them.

* `tiles_splitSegments`: the segments of a text tile it;
* `interleave_gapTexts_matchTexts`: gaps and matches in turns give the segments back;
* `replaceWhen_eq_replaceSegments_iff`: replacing is replacing segment by segment, with one
  exception.
-/

namespace LiteralMarkdown

namespace Segment

/-- The segments cover the text from an index on, one after the other and none of them empty. -/
inductive Tiles : Nat → List Char → List Segment → Prop where
  | nil {index : Nat} : Tiles index [] []
  | cons {index : Nat} {s : Segment} {rest : List Char} {segments : List Segment}
      (hindex : s.index = index) (hne : s.text ≠ [])
      (next : Tiles (index + s.text.length) rest segments) :
      Tiles index (s.text ++ rest) (s :: segments)

/-- The matches lie in the text from an index on, in order and one behind the other. -/
inductive Placed : Nat → List Char → List Match → Prop where
  | nil {index : Nat} {rest : List Char} : Placed index rest []
  | cons {index : Nat} {m : Match} {gap rest : List Char} {ms : List Match}
      (hstart : m.start = index + gap.length) (next : Placed (m.start + m.text.length) rest ms) :
      Placed index (gap ++ (m.text ++ rest)) (m :: ms)

/-- Matches that lie in a text lie in it with something more in front. -/
theorem Placed.widen {index : Nat} {rest : List Char} {ms : List Match} (gap : List Char)
    (h : Placed (index + gap.length) rest ms) : Placed index (gap ++ rest) ms := by
  cases h with
  | nil => exact .nil
  | @cons _ m inner rest ms hstart next =>
    rw [← List.append_assoc]
    exact .cons (by rw [hstart, List.length_append, Nat.add_assoc]) next

/-- Matches that lie in the text from an index on begin there or later. -/
theorem Placed.le_start {index : Nat} {rest : List Char} {ms : List Match}
    (h : Placed index rest ms) : ∀ m ∈ ms, index ≤ m.start := by
  induction h with
  | nil =>
    intro m hm
    cases hm
  | cons hstart next ih =>
    intro m' hm'
    rcases List.mem_cons.1 hm' with rfl | hm'
    · omega
    · have := ih m' hm'
      omega

/-- What an unmatched stretch and the segments behind it cover. -/
theorem tiles_unmatched_append {index : Nat} {gap rest : List Char} {segments : List Segment}
    (h : Tiles (index + gap.length) rest segments) :
    Tiles index (gap ++ rest) (unmatched index gap ++ segments) := by
  cases gap with
  | nil => simpa [unmatched] using h
  | cons a gap =>
    have : unmatched index (a :: gap) = [⟨index, a :: gap, false⟩] := rfl
    rw [this]
    exact .cons (s := ⟨index, a :: gap, false⟩) rfl (List.cons_ne_nil a gap) h

theorem Placed.tiles_ofMatches {ms : List Match} {index : Nat} {rest : List Char}
    (h : Placed index rest ms) : Tiles index rest (ofMatches index rest ms) := by
  induction ms generalizing index rest with
  | nil =>
    have hempty : Tiles (index + rest.length) [] [] := .nil
    simpa [ofMatches] using tiles_unmatched_append hempty
  | cons m ms ih =>
    cases h with
    | @cons _ _ gap rest _ hstart next =>
      by_cases hempty : m.text = []
      · -- An empty match makes no segment, and the gap before it goes on.
        rw [hempty, List.length_nil, Nat.add_zero, hstart] at next
        have := ih next.widen
        simpa [ofMatches, hempty] using this
      · have hgap : m.start - index = gap.length := by omega
        have htake : (gap ++ (m.text ++ rest)).take gap.length = gap := List.take_left
        have hdrop : (gap ++ (m.text ++ rest)).drop (gap.length + m.text.length) = rest := by
          rw [← List.append_assoc, ← List.length_append, List.drop_left]
        have hsegments : ofMatches index (gap ++ (m.text ++ rest)) (m :: ms) =
            unmatched index gap ++ ⟨m.start, m.text, true⟩ ::
              ofMatches (m.start + m.text.length) rest ms := by
          simp only [ofMatches, List.isEmpty_iff, hempty, if_false, hgap, htake, hdrop]
        rw [hsegments]
        refine tiles_unmatched_append (.cons (s := ⟨m.start, m.text, true⟩) hstart hempty ?_)
        rw [← hstart]
        exact ih next

/-! ## Gaps and matches -/

/-- The texts of the matches. -/
def matchTexts (segments : List Segment) : List (List Char) :=
  (segments.filter Segment.isMatch).map Segment.text

/-- The texts before, between and behind the matches, one more than there are matches. A gap without
any unmatched segment is the empty text. -/
def gapTexts : List Segment → List (List Char)
  | [] => [[]]
  | s :: segments =>
    if s.isMatch then [] :: gapTexts segments
    else (s.text ++ (gapTexts segments).headD []) :: (gapTexts segments).tail

theorem exists_gapTexts_eq_cons (segments : List Segment) :
    ∃ gap gaps, gapTexts segments = gap :: gaps := by
  cases segments with
  | nil => exact ⟨[], [], rfl⟩
  | cons s segments =>
    unfold gapTexts
    split
    · exact ⟨_, _, rfl⟩
    · exact ⟨_, _, rfl⟩

theorem gapTexts_unmatched (index : Nat) (gap : List Char) :
    gapTexts (unmatched index gap) = [gap] := by
  cases gap <;> simp [unmatched, gapTexts]

theorem matchTexts_unmatched (index : Nat) (gap : List Char) :
    matchTexts (unmatched index gap) = [] := by
  cases gap <;> simp [unmatched, matchTexts]

theorem gapTexts_unmatched_append (index start : Nat) (gap text : List Char)
    (segments : List Segment) :
    gapTexts (unmatched index gap ++ ⟨start, text, true⟩ :: segments) =
      gap :: gapTexts segments := by
  cases gap <;> simp [unmatched, gapTexts]

theorem matchTexts_unmatched_append (index start : Nat) (gap text : List Char)
    (segments : List Segment) :
    matchTexts (unmatched index gap ++ ⟨start, text, true⟩ :: segments) =
      text :: matchTexts segments := by
  cases gap <;> simp [unmatched, matchTexts]

/-- Around a match the gaps are those before it and those behind it. -/
theorem gapTexts_append_cons (before : List Segment) {s : Segment} (hs : s.isMatch = true)
    (behind : List Segment) :
    gapTexts (before ++ s :: behind) = gapTexts before ++ gapTexts behind := by
  induction before with
  | nil => simp [gapTexts, hs]
  | cons first before ih =>
    rcases exists_gapTexts_eq_cons before with ⟨gap, gaps, hgaps⟩
    rw [hgaps] at ih
    rw [List.cons_append, gapTexts, gapTexts, ih, hgaps]
    split <;> rfl

theorem matchTexts_append_cons (before : List Segment) {s : Segment} (hs : s.isMatch = true)
    (behind : List Segment) :
    matchTexts (before ++ s :: behind) = matchTexts before ++ s.text :: matchTexts behind := by
  simp [matchTexts, hs]

theorem length_gapTexts (segments : List Segment) :
    (gapTexts segments).length = (matchTexts segments).length + 1 := by
  induction segments with
  | nil => rfl
  | cons s segments ih =>
    cases hs : s.isMatch with
    | true => simp [gapTexts, matchTexts, hs, ih]
    | false =>
      rw [gapTexts, hs, if_neg Bool.false_ne_true, List.length_cons, List.length_tail, ih]
      simp [matchTexts, hs]

/-- Gaps and matches put together, in turns and a gap first. -/
def interleave : List (List Char) → List (List Char) → List Char
  | gap :: gaps, text :: texts => gap ++ (text ++ interleave gaps texts)
  | gaps, _ => gaps.flatten

/-- No text is lost: gaps and matches in turns are the segments in order. -/
theorem interleave_gapTexts_matchTexts (segments : List Segment) :
    interleave (gapTexts segments) (matchTexts segments) = segments.flatMap Segment.text := by
  induction segments with
  | nil => rfl
  | cons s segments ih =>
    cases hs : s.isMatch with
    | true =>
      have hmatch : matchTexts (s :: segments) = s.text :: matchTexts segments := by
        simp [matchTexts, hs]
      rw [gapTexts, if_pos hs, hmatch, interleave, ih]
      rfl
    | false =>
      -- An unmatched segment makes the first gap of the others longer.
      have hgap : matchTexts (s :: segments) = matchTexts segments := by simp [matchTexts, hs]
      rcases exists_gapTexts_eq_cons segments with ⟨gap, gaps, hgaps⟩
      have hlonger : interleave ((s.text ++ gap) :: gaps) (matchTexts segments) =
          s.text ++ interleave (gap :: gaps) (matchTexts segments) := by
        cases matchTexts segments <;> simp [interleave]
      rw [gapTexts, hs, if_neg Bool.false_ne_true, hgap, hgaps, List.headD_cons, List.tail_cons,
        hlonger, ← hgaps, ih]
      rfl

theorem interleave_append {gaps gaps' texts texts' : List (List Char)} {text : List Char}
    (hlen : gaps.length = texts.length + 1) :
    interleave (gaps ++ gaps') (texts ++ text :: texts') =
      interleave gaps texts ++ (text ++ interleave gaps' texts') := by
  induction texts generalizing gaps with
  | nil =>
    rcases List.length_eq_one_iff.1 hlen with ⟨gap, rfl⟩
    simp [interleave]
  | cons first texts ih =>
    cases gaps with
    | nil => cases hlen
    | cons gap gaps =>
      rw [List.cons_append, List.cons_append, interleave, ih (Nat.succ.inj hlen), interleave]
      simp

/-- Replacing the unmatched segments is replacing the gaps. -/
theorem flatMap_ofMatches {replace : List Char → List Char} (hnil : replace [] = [])
    (ms : List Match) (index : Nat) (rest : List Char) :
    (ofMatches index rest ms).flatMap (fun s => if s.isMatch then s.text else replace s.text) =
      interleave ((gapTexts (ofMatches index rest ms)).map replace)
        (matchTexts (ofMatches index rest ms)) := by
  have hgap (gap : List Char) (index : Nat) : (unmatched index gap).flatMap
      (fun s => if s.isMatch then s.text else replace s.text) = replace gap := by
    cases gap <;> simp [unmatched, hnil]
  induction ms generalizing index rest with
  | nil =>
    rw [ofMatches, hgap, gapTexts_unmatched, matchTexts_unmatched]
    simp [interleave]
  | cons m ms ih =>
    rw [ofMatches]
    split
    · exact ih index rest
    · rw [List.flatMap_append, hgap, List.flatMap_cons, ih, gapTexts_unmatched_append,
        matchTexts_unmatched_append, List.map_cons, interleave, if_pos rfl]

/-! ## What tiles have in common -/

theorem Tiles.flatMap_text {index : Nat} {text : List Char} {segments : List Segment}
    (h : Tiles index text segments) : segments.flatMap Segment.text = text := by
  induction h with
  | nil => rfl
  | cons hindex hne next ih => rw [List.flatMap_cons, ih]

/-- The index of a segment is the length of all that comes before it. -/
theorem Tiles.index_eq {before : List Segment} {index : Nat} {text : List Char} {s : Segment}
    {behind : List Segment} (h : Tiles index text (before ++ s :: behind)) :
    s.index = index + (before.flatMap Segment.text).length := by
  induction before generalizing index text with
  | nil =>
    cases h with
    | cons hindex hne next => simpa using hindex
  | cons first before ih =>
    cases h with
    | cons hindex hne next => rw [ih next, List.flatMap_cons, List.length_append, Nat.add_assoc]

end Segment

open Segment

/-- The matches of a run lie in the text ahead. -/
theorem Pattern.Run.placed {p : Pattern} {c : Cursor} {pieces : List Piece} (h : Run p c pieces) :
    Placed c.position c.rest (pieces.filterMap Piece.match?) := by
  induction h using Pattern.Run.found_induction with
  | stop hrest => exact .nil
  | @skip c x rest pieces hrest hnone next ih =>
    rw [Cursor.after_rest (x := [x]) hrest] at ih
    rw [filterMap_match?_skipped, hrest]
    exact Placed.widen [x] ih
  | found he next h ih =>
    have hreach := reaches_text_matchTo he
    rw [Cursor.after_rest hreach.rest] at ih
    rw [filterMap_match?_found, hreach.rest]
    exact @Placed.cons _ _ [] _ _ rfl ih

theorem tiles_splitSegments (p : Pattern) (text : List Char) :
    Tiles 0 text (splitSegments p text) := (p.run_scan text).placed.tiles_ofMatches

/-! ## Replacing in segments -/

/-- The text with `replace` applied segment by segment: to the matched ones, or with `invert` to the
others. -/
def replaceSegments (p : Pattern) (replace : List Char → List Char) (invert : Bool)
    (text : List Char) : List Char :=
  (splitSegments p text).flatMap fun s => if s.isMatch != invert then replace s.text else s.text

/-- A text without any match is a single segment, or none if it is empty. -/
theorem splitSegments_of_not_occursIn {p : Pattern} {text : List Char}
    (h : p.occursIn text = false) : splitSegments p text = unmatched 0 text := by
  have hmatches : p.matchesIn text = [] := by simpa [Pattern.occursIn] using h
  rw [splitSegments, hmatches, ofMatches]

/-- The short way for a text without any match changes nothing, unless there is no segment at all
and the replacement makes something of the empty text. -/
theorem replaceWhen_eq_replaceSegments {p : Pattern} {replace : List Char → List Char}
    {invert : Bool} {text : List Char}
    (h : text = [] → invert = true → p.occursIn [] = false → replace [] = []) :
    replaceWhen p replace invert text = replaceSegments p replace invert text := by
  unfold replaceWhen replaceSegments
  cases hoccurs : p.occursIn text with
  | true => rw [if_pos rfl]
  | false =>
    rw [if_neg Bool.false_ne_true, splitSegments_of_not_occursIn hoccurs]
    cases text with
    | nil =>
      cases invert with
      | true => exact h rfl rfl hoccurs
      | false => rfl
    | cons a text => cases invert <;> simp [unmatched]

/-- Replacing what lies between the matches is replacing the unmatched segments, also in a text
without any match, if what replaces the empty text is empty. -/
theorem replaceWhen_eq_flatMap (p : Pattern) {replace : List Char → List Char}
    (hnil : replace [] = []) (text : List Char) :
    replaceWhen p replace true text =
      (splitSegments p text).flatMap fun s => if s.isMatch then s.text else replace s.text := by
  rw [replaceWhen_eq_replaceSegments fun _ _ _ => hnil, replaceSegments]
  congr 1
  funext s
  cases s.isMatch <;> rfl

/-- There is nothing in the text, no match in nothing, and what lies between matches is replaced by
a function that makes something of nothing. -/
structure ReplacesNothing (p : Pattern) (replace : List Char → List Char) (invert : Bool)
    (text : List Char) : Prop where
  text_eq : text = []
  invert_eq : invert = true
  no_match : p.matchAt? (.atStart []) = none
  replace_ne : replace [] ≠ []

theorem occursIn_nil_eq_false_iff {p : Pattern} :
    p.occursIn [] = false ↔ p.matchAt? (.atStart []) = none := by
  have hscan : p.scan [] = (p.takenAt (.atStart [])).map .found := rfl
  have hmatches : p.matchesIn [] = p.takenAt (.atStart []) := by
    rw [Pattern.matchesIn, hscan, List.filterMap_map]
    exact List.filterMap_some
  rw [Pattern.occursIn, hmatches, Pattern.takenAt]
  cases p.matchAt? (.atStart []) with
  | none => simp
  | some m => by_cases hempty : m.text.isEmpty = true <;> simp [hempty]

/-- Replacing in a text is replacing segment by segment, with one exception: where there is nothing
to replace, it is the replacement of the empty text. -/
theorem replaceWhen_eq_replaceSegments_iff (p : Pattern) (replace : List Char → List Char)
    (invert : Bool) (text : List Char) :
    (replaceWhen p replace invert text = replaceSegments p replace invert text ↔
        ¬ ReplacesNothing p replace invert text) ∧
      (ReplacesNothing p replace invert text →
        replaceWhen p replace invert text = replace []) := by
  -- In the exceptional case there are no segments at all.
  have hexception (h : ReplacesNothing p replace invert text) :
      replaceWhen p replace invert text = replace [] ∧
        replaceSegments p replace invert text = [] := by
    rcases h with ⟨rfl, rfl, hnone, -⟩
    have hoccurs := occursIn_nil_eq_false_iff.2 hnone
    constructor
    · rw [replaceWhen, hoccurs, if_neg Bool.false_ne_true, if_pos rfl]
    · rw [replaceSegments, splitSegments_of_not_occursIn hoccurs]
      rfl
  refine ⟨⟨fun heq h => ?_, fun h => ?_⟩, fun h => (hexception h).1⟩
  · rcases hexception h with ⟨hwhole, hpieces⟩
    rw [hwhole, hpieces] at heq
    exact h.replace_ne heq
  · apply replaceWhen_eq_replaceSegments
    intro htext hinvert hoccurs
    by_contra hne
    exact h ⟨htext, hinvert, occursIn_nil_eq_false_iff.1 hoccurs, hne⟩

/-- Brackets are put around nothing, though it has no segments. -/
theorem replaceWhen_bracketed_nil :
    let bracketed (text : List Char) : List Char := '[' :: text ++ [']']
    ReplacesNothing (.char 'a') bracketed true [] ∧
      replaceWhen (.char 'a') bracketed true [] = ['[', ']'] ∧
      replaceSegments (.char 'a') bracketed true [] = [] := by
  intro bracketed
  have h : ReplacesNothing (.char 'a') bracketed true [] := ⟨rfl, rfl, by decide, by decide⟩
  exact ⟨h, (replaceWhen_eq_replaceSegments_iff (.char 'a') bracketed true []).2 h, by decide⟩

end LiteralMarkdown
