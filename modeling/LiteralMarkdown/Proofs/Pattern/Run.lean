import LiteralMarkdown.Pattern.Scan
import LiteralMarkdown.Proofs.Pattern.Reach

/-!
# Runs of a scan

A scan is a function over positions and counts of covered characters. `Pattern.Run` tells the same
story step by step: at each cursor the scan stops, takes an empty match, skips a character because
no match gets further, or takes the preferred match that does. The main statement is `run_scan`;
what holds of all runs is proved by induction on them.

* `Run.found_induction`: induction that need not tell empty matches from others;
* `Run.text_eq`: the texts of the pieces, put together, are the text ahead;
* `Run.found`: every match found is a match at the place where it was found.
-/

namespace LiteralMarkdown

namespace Pattern

open Cursor

/-- The preferred end of a match that lies further on than the cursor, if there is one. -/
def onward? (p : Pattern) (c : Cursor) : Option Cursor :=
  (p.ends c).find? fun e => decide (c.position < e.position)

/-- The pieces into which a scan from a cursor can cut the text ahead. -/
inductive Run (p : Pattern) : Cursor → List Piece → Prop where
  | stop {c : Cursor} (hrest : c.rest = []) : Run p c []
  | touch {c e : Cursor} {pieces : List Piece} (he : e ∈ p.ends c)
      (hpos : e.position = c.position) (next : Run p c pieces) :
      Run p c (.found (c.matchTo e) :: pieces)
  | skip {c : Cursor} {x : Char} {rest : List Char} {pieces : List Piece}
      (hrest : c.rest = x :: rest) (hnone : p.onward? c = none)
      (next : Run p (c.after [x]) pieces) : Run p c (.skipped x :: pieces)
  | take {c e : Cursor} {pieces : List Piece} (he : p.onward? c = some e)
      (next : Run p (c.after (c.textTo e)) pieces) : Run p c (.found (c.matchTo e) :: pieces)

theorem onward?_eq_none_iff {p : Pattern} {c : Cursor} :
    p.onward? c = none ↔ ∀ e ∈ p.ends c, e.position ≤ c.position := by
  simp [onward?]

theorem mem_ends_of_onward? {p : Pattern} {c e : Cursor} (h : p.onward? c = some e) :
    e ∈ p.ends c := List.mem_of_find?_eq_some h

theorem position_lt_of_onward? {p : Pattern} {c e : Cursor} (h : p.onward? c = some e) :
    c.position < e.position := by
  simpa using List.find?_some h

/-- The first of the ends that pass a test comes before all others that pass it. -/
theorem eq_or_of_find?_eq_some {R : Cursor → Cursor → Prop} {test : Cursor → Bool}
    {es : List Cursor} {first e : Cursor} (hes : es.Pairwise R)
    (hfirst : es.find? test = some first) (he : e ∈ es) (htest : test e = true) :
    e = first ∨ R first e := by
  rcases List.find?_eq_some_iff_append.1 hfirst with ⟨-, before, behind, rfl, hbefore⟩
  rcases List.mem_append.1 he with he | he
  · have := hbefore e he
    rw [htest] at this
    cases this
  · rcases List.mem_cons.1 he with rfl | he
    · exact Or.inl rfl
    · have hpair := (List.pairwise_append.1 hes).2.1
      exact Or.inr ((List.pairwise_cons.1 hpair).1 e he)

/-- A first hit in lists that stand for the members of a list lies in the list of one member, and
this one comes before all others with a hit in their lists. -/
theorem exists_of_find?_flatMap_eq_some {R : Cursor → Cursor → Prop} {test : Cursor → Bool}
    {es : List Cursor} {ends : Cursor → List Cursor} {first : Cursor} (hes : es.Pairwise R)
    (hfirst : (es.flatMap ends).find? test = some first) :
    ∃ d ∈ es, first ∈ ends d ∧
      ∀ d' ∈ es, ∀ e ∈ ends d', test e = true → d' = d ∨ R d d' := by
  rw [List.find?_flatMap] at hfirst
  rcases List.findSome?_eq_some_iff.1 hfirst with ⟨before, d, behind, rfl, hd, hbefore⟩
  refine ⟨d, by simp, List.mem_of_find?_eq_some hd, fun d' hd' e he htest => ?_⟩
  rcases List.mem_append.1 hd' with hd' | hd'
  · have := List.find?_eq_none.1 (hbefore d' hd') e he
    exact absurd htest this
  · rcases List.mem_cons.1 hd' with rfl | hd'
    · exact Or.inl rfl
    · have hpair := (List.pairwise_append.1 hes).2.1
      exact Or.inr ((List.pairwise_cons.1 hpair).1 d' hd')

/-- A cursor from which a match gets further has text ahead, the text of the match first. -/
theorem reaches_of_onward? {p : Pattern} {c e : Cursor} (h : p.onward? c = some e) :
    c.Reaches (c.textTo e) e ∧ c.textTo e ≠ [] := by
  rcases p.exists_reaches_of_mem_ends c e (mem_ends_of_onward? h) with ⟨x, hx⟩
  have hlt := position_lt_of_onward? h
  rw [hx.textTo_eq]
  refine ⟨hx, ?_⟩
  rintro rfl
  have := hx.position
  rw [List.length_nil] at this
  omega

/-! ## What a scan takes at one place -/

theorem group?_matchTo (c e : Cursor) (label : Label) :
    (c.matchTo e).group? label = (e.captured.lookup label).map Capture.text := by
  rw [Match.group?, Cursor.matchTo]
  induction e.captured with
  | nil => rfl
  | cons entry entries ih =>
    rcases entry with ⟨other, kept⟩
    simp only [List.map_cons, List.lookup_cons]
    cases label == other with
    | true => rfl
    | false => exact ih

theorem matchAt?_eq (p : Pattern) (c : Cursor) :
    p.matchAt? c = (p.ends c).head?.map c.matchTo := by
  rw [matchAt?, search_eq_findSome?]
  cases p.ends c <;> rfl

theorem advanceAt?_eq (p : Pattern) (c : Cursor) :
    p.advanceAt? c = (p.onward? c).map c.matchTo := by
  rw [advanceAt?, search_eq_findSome?, onward?, List.find?_eq_findSome?_guard]
  congr 2
  funext e
  simp [Option.guard]

/-- If no match is empty then the preferred one is the preferred one of those that get further. -/
theorem matchAt?_eq_onward? {p : Pattern} {c : Cursor}
    (h : ∀ e ∈ p.ends c, c.position < e.position) :
    p.matchAt? c = (p.onward? c).map c.matchTo := by
  rw [matchAt?_eq, onward?]
  cases hends : p.ends c with
  | nil => rfl
  | cons e others =>
    have hlt := h e (hends ▸ List.mem_cons_self)
    rw [List.head?_cons, List.find?_cons_of_pos (by simpa using hlt)]

/-- An end of a match is reached over the text of the match. -/
theorem reaches_text_matchTo {p : Pattern} {c e : Cursor} (he : e ∈ p.ends c) :
    c.Reaches (c.matchTo e).text e := by
  rcases p.exists_reaches_of_mem_ends c e he with ⟨x, hx⟩
  have htext : (c.matchTo e).text = x := hx.textTo_eq
  rw [htext]
  exact hx

theorem isEmpty_matchTo {p : Pattern} {c e : Cursor} (he : e ∈ p.ends c) :
    (c.matchTo e).text.isEmpty = true ↔ e.position = c.position := by
  have hpos := (reaches_text_matchTo he).position
  rw [List.isEmpty_iff]
  constructor
  · intro hempty
    rwa [hempty] at hpos
  · intro h
    exact List.length_eq_zero_iff.1 (by omega)

/-- The empty match that a scan takes at a cursor, if it takes one there. -/
inductive Touched (p : Pattern) (c : Cursor) : List Match → Prop where
  | not : Touched p c []
  | once {e : Cursor} (he : e ∈ p.ends c) (hpos : e.position = c.position) :
      Touched p c [c.matchTo e]

/-- A scan takes an empty match or none, and then the preferred one that gets further. -/
theorem exists_touched_takenAt (p : Pattern) (c : Cursor) :
    ∃ first, Touched p c first ∧
      p.takenAt c = first ++ ((p.onward? c).map c.matchTo).toList := by
  rw [takenAt, matchAt?_eq]
  cases hends : p.ends c with
  | nil =>
    refine ⟨[], .not, ?_⟩
    simp [onward?, hends]
  | cons e others =>
    have he : e ∈ p.ends c := hends ▸ List.mem_cons_self
    by_cases hpos : e.position = c.position
    · -- The preferred match is empty: another one is looked for that gets further.
      refine ⟨[c.matchTo e], .once he hpos, ?_⟩
      have hempty := (isEmpty_matchTo he).2 hpos
      simp [hempty, advanceAt?_eq]
    · -- The preferred match gets further and is the only one taken.
      have hle : c.position ≤ e.position := by
        rcases p.exists_reaches_of_mem_ends c e he with ⟨x, hx⟩
        have := hx.position
        omega
      have honward : p.onward? c = some e := by
        rw [onward?, hends, List.find?_cons_of_pos]
        simpa using Nat.lt_of_le_of_ne hle (Ne.symm hpos)
      refine ⟨[], .not, ?_⟩
      have hempty : ¬ (c.matchTo e).text.isEmpty = true := fun h => hpos ((isEmpty_matchTo he).1 h)
      simp [hempty, honward]

theorem Touched.run {p : Pattern} {c : Cursor} {first : List Match} {pieces : List Piece}
    (h : Touched p c first) (next : Run p c pieces) : Run p c (first.map .found ++ pieces) := by
  cases h with
  | not => exact next
  | once he hpos => exact .touch he hpos next

theorem Touched.flatMap_text {p : Pattern} {c : Cursor} {first : List Match}
    (h : Touched p c first) : first.flatMap Match.text = [] := by
  cases h with
  | not => rfl
  | once he hpos =>
    have := (isEmpty_matchTo he).2 hpos
    simpa [List.isEmpty_iff] using this

/-! ## Scans are runs -/

/-- The pieces of the text ahead of a cursor. -/
def scanAt (p : Pattern) (c : Cursor) : List Piece := p.scanFrom c.position c.previous 0 c.rest

theorem getLast?_cons_or (a : Char) (x : List Char) (previous : Option Char) :
    (a :: x).getLast?.or previous = x.getLast?.or (some a) := by
  rw [List.getLast?_cons, Option.some_or]
  cases x.getLast? <;> rfl

/-- Characters that belong to a match are passed over. -/
theorem scanFrom_covered (p : Pattern) (position : Nat) (previous : Option Char)
    (x rest : List Char) :
    p.scanFrom position previous x.length (x ++ rest) =
      p.scanFrom (position + x.length) (x.getLast?.or previous) 0 rest := by
  induction x generalizing position previous with
  | nil => simp
  | cons a x ih =>
    have hstep : p.scanFrom position previous (a :: x).length (a :: x ++ rest) =
        p.scanFrom (position + 1) (some a) x.length (x ++ rest) := by
      simp [scanFrom]
    rw [hstep, ih, getLast?_cons_or, List.length_cons, Nat.add_right_comm, Nat.add_assoc]

section Equations

variable {p : Pattern} {c : Cursor} {first : List Match}
  (hc : c.captured = []) (hfirst : Touched p c first)
  (htaken : p.takenAt c = first ++ ((p.onward? c).map c.matchTo).toList)
include hc htaken

theorem scanAt_of_nil (hrest : c.rest = []) : p.scanAt c = first.map .found := by
  have hcursor : c = ⟨c.position, c.previous, [], []⟩ := by rw [← hrest, ← hc]
  -- No match gets further where nothing lies ahead.
  have hnone : p.onward? c = none := by
    by_contra h
    rcases Option.ne_none_iff_exists'.1 h with ⟨e, he⟩
    rcases reaches_of_onward? he with ⟨hx, hne⟩
    have := hx.rest
    simp [hrest, hne] at this
  rw [hnone] at htaken
  rw [scanAt, hrest, scanFrom, ← hcursor, htaken]
  simp

include hfirst

theorem scanAt_of_onward?_eq_none {x : Char} {rest : List Char} (hrest : c.rest = x :: rest)
    (hnone : p.onward? c = none) :
    p.scanAt c = first.map .found ++ .skipped x :: p.scanAt (c.after [x]) := by
  have hcursor : c = ⟨c.position, c.previous, x :: rest, []⟩ := by rw [← hrest, ← hc]
  have hafter : (c.after [x]).rest = rest := after_rest hrest
  have hempty := hfirst.flatMap_text
  rw [hnone] at htaken
  rw [scanAt, hrest, scanFrom, ← hcursor, htaken, scanAt, hafter]
  simp [hempty, after]

theorem scanAt_of_onward?_eq_some {e : Cursor} (he : p.onward? c = some e) :
    p.scanAt c = first.map .found ++ .found (c.matchTo e) :: p.scanAt (c.after (c.textTo e)) := by
  rcases reaches_of_onward? he with ⟨hreach, hne⟩
  rcases List.exists_cons_of_ne_nil hne with ⟨x, xs, hx⟩
  have hrest : c.rest = x :: (xs ++ e.rest) := by rw [hreach.rest, hx, List.cons_append]
  have hcursor : c = ⟨c.position, c.previous, x :: (xs ++ e.rest), []⟩ := by rw [← hrest, ← hc]
  have hlen : (c.matchTo e).text.length = xs.length + 1 := by rw [matchTo, hx, List.length_cons]
  have hafter : (c.after (c.textTo e)).rest = e.rest := after_rest hreach.rest
  have hempty := hfirst.flatMap_text
  rw [he] at htaken
  rw [scanAt, hrest, scanFrom, ← hcursor, htaken, scanAt, hafter]
  simp [hempty, hlen, scanFrom_covered, after, hx, ← getLast?_cons_or x xs c.previous,
    Nat.add_right_comm, Nat.add_assoc]

end Equations

theorem run_scanAt (p : Pattern) (c : Cursor) (hc : c.captured = []) : Run p c (p.scanAt c) := by
  -- What lies ahead gets shorter by a match that gets further, or else by the character skipped.
  induction hn : c.rest.length using Nat.strongRecOn generalizing c with
  | ind n ih =>
    rcases p.exists_touched_takenAt c with ⟨first, hfirst, htaken⟩
    cases honward : p.onward? c with
    | some e =>
      rcases reaches_of_onward? honward with ⟨hreach, hne⟩
      have hpos := List.length_pos_iff.2 hne
      have hlen := congrArg List.length hreach.rest
      rw [List.length_append] at hlen
      have hafter : (c.after (c.textTo e)).rest = e.rest := after_rest hreach.rest
      have hnext := ih e.rest.length (by omega) (c.after (c.textTo e)) hc (by rw [hafter])
      rw [scanAt_of_onward?_eq_some hc hfirst htaken honward]
      exact hfirst.run (.take honward hnext)
    | none =>
      cases hrest : c.rest with
      | nil =>
        rw [scanAt_of_nil hc htaken hrest, ← List.append_nil (first.map _)]
        exact hfirst.run (.stop hrest)
      | cons x rest =>
        have hafter : (c.after [x]).rest = rest := after_rest hrest
        have hnext := ih rest.length (by simp [← hn, hrest]) (c.after [x]) hc (by rw [hafter])
        rw [scanAt_of_onward?_eq_none hc hfirst htaken hrest honward]
        exact hfirst.run (.skip hrest honward hnext)

/-- The pieces of a text are those of a run from its start. -/
theorem run_scan (p : Pattern) (text : List Char) : Run p (.atStart text) (p.scan text) :=
  run_scanAt p (.atStart text) rfl

/-! ## What holds of all runs -/

theorem filterMap_match?_skipped (a : Char) (pieces : List Piece) :
    (Piece.skipped a :: pieces).filterMap Piece.match? = pieces.filterMap Piece.match? := rfl

theorem filterMap_match?_found (m : Match) (pieces : List Piece) :
    (Piece.found m :: pieces).filterMap Piece.match? = m :: pieces.filterMap Piece.match? := rfl

/-- An empty match does not move the cursor. -/
theorem after_text_matchTo {p : Pattern} {c e : Cursor} (he : e ∈ p.ends c)
    (hpos : e.position = c.position) : c.after (c.matchTo e).text = c := by
  have hempty := (isEmpty_matchTo he).2 hpos
  rw [List.isEmpty_iff] at hempty
  rw [hempty, after_nil]

/-- Induction on runs that makes no difference between empty matches and others. -/
theorem Run.found_induction {p : Pattern}
    {motive : (c : Cursor) → (pieces : List Piece) → Run p c pieces → Prop}
    (stop : ∀ {c : Cursor} (hrest : c.rest = []), motive c [] (.stop hrest))
    (skip : ∀ {c : Cursor} {x : Char} {rest : List Char} {pieces : List Piece}
      (hrest : c.rest = x :: rest) (hnone : p.onward? c = none)
      (next : Run p (c.after [x]) pieces), motive (c.after [x]) pieces next →
      motive c (.skipped x :: pieces) (.skip hrest hnone next))
    (found : ∀ {c e : Cursor} {pieces : List Piece} (_ : e ∈ p.ends c)
      (next : Run p (c.after (c.matchTo e).text) pieces)
      (h : Run p c (.found (c.matchTo e) :: pieces)),
      motive (c.after (c.matchTo e).text) pieces next →
      motive c (.found (c.matchTo e) :: pieces) h)
    {c : Cursor} {pieces : List Piece} (h : Run p c pieces) : motive c pieces h := by
  induction h with
  | stop hrest => exact stop hrest
  | skip hrest hnone next ih => exact skip hrest hnone next ih
  | @touch c e pieces he hpos next ih =>
    -- The run goes on at the same cursor.
    have hsame {d : Cursor} (hd : d = c) : ∃ next : Run p d pieces, motive d pieces next := by
      subst hd
      exact ⟨next, ih⟩
    rcases hsame (after_text_matchTo he hpos) with ⟨next', ih'⟩
    exact found he next' _ ih'
  | take he next ih => exact found (mem_ends_of_onward? he) next _ ih

/-- The texts of the pieces, put together, are the text ahead. -/
theorem Run.text_eq {p : Pattern} {c : Cursor} {pieces : List Piece} (h : Run p c pieces) :
    pieces.flatMap Piece.text = c.rest := by
  induction h using Run.found_induction with
  | stop hrest => simp [hrest]
  | skip hrest hnone next ih => simp [Piece.text, ih, hrest, after_rest (x := [_]) hrest]
  | found he next h ih =>
    have hreach := reaches_text_matchTo he
    rw [List.flatMap_cons, ih, after_rest hreach.rest, Piece.text, ← hreach.rest]

/-- Behind a match that it has found a run goes on. -/
theorem Run.behind_found {p : Pattern} {c : Cursor} {m : Match} {pieces : List Piece}
    (h : Run p c (.found m :: pieces)) :
    ∃ e ∈ p.ends c, m = c.matchTo e ∧ Run p (c.after m.text) pieces := by
  cases h with
  | @touch _ e _ he hpos next =>
    refine ⟨e, he, rfl, ?_⟩
    rwa [after_text_matchTo he hpos]
  | @take _ e _ he next => exact ⟨e, mem_ends_of_onward? he, rfl, next⟩

/-- Behind some pieces of a run the run goes on. -/
theorem Run.of_append {p : Pattern} {pieces more : List Piece} {c : Cursor}
    (h : Run p c (pieces ++ more)) : Run p (c.after (pieces.flatMap Piece.text)) more := by
  induction pieces generalizing c with
  | nil => simpa using h
  | cons piece pieces ih =>
    rw [List.flatMap_cons, after_append]
    cases piece with
    | skipped x =>
      cases h with
      | skip hrest hnone next => exact ih next
    | found m =>
      rcases h.behind_found with ⟨e, -, -, next⟩
      exact ih next

/-- A match found is a match at the place where it was found, and behind it lies the text of
the pieces that follow. -/
theorem Run.found {p : Pattern} {c : Cursor} {m : Match} {pieces : List Piece}
    (h : Run p c (.found m :: pieces)) :
    ∃ e ∈ p.ends c, m = c.matchTo e ∧ e.rest = pieces.flatMap Piece.text := by
  rcases h.behind_found with ⟨e, he, rfl, next⟩
  refine ⟨e, he, rfl, ?_⟩
  rw [next.text_eq, after_rest (reaches_text_matchTo he).rest]

/-- A match that a scan finds is a match behind the text of the pieces before it, and behind it lies
the text of the pieces that follow. -/
theorem exists_end_of_scan {p : Pattern} {text : List Char} {before behind : List Piece}
    {m : Match} (h : p.scan text = before ++ .found m :: behind) :
    ∃ e ∈ p.ends ((Cursor.atStart text).after (before.flatMap Piece.text)),
      m = ((Cursor.atStart text).after (before.flatMap Piece.text)).matchTo e ∧
      e.rest = behind.flatMap Piece.text := by
  have hrun := p.run_scan text
  rw [h] at hrun
  exact hrun.of_append.found

/-- A match that a scan finds is a match at a place where no group has kept anything yet. -/
theorem exists_mem_ends_of_scan {p : Pattern} {text : List Char} {before behind : List Piece}
    {m : Match} (h : p.scan text = before ++ .found m :: behind) :
    ∃ c e, c.captured = [] ∧ e ∈ p.ends c ∧ m = c.matchTo e ∧
      e.rest = behind.flatMap Piece.text := by
  rcases exists_end_of_scan h with ⟨e, he, hm, hrest⟩
  exact ⟨_, e, rfl, he, hm, hrest⟩

theorem flatMap_text_scan (p : Pattern) (text : List Char) :
    (p.scan text).flatMap Piece.text = text := (p.run_scan text).text_eq

/-- The matches in a text are those that a scan finds. -/
theorem mem_matchesIn_iff {p : Pattern} {text : List Char} {m : Match} :
    m ∈ p.matchesIn text ↔ .found m ∈ p.scan text := by
  unfold matchesIn
  rw [List.mem_filterMap]
  constructor
  · rintro ⟨piece, hpiece, hmatch⟩
    cases piece with
    | skipped a => cases hmatch
    | found m' =>
      cases hmatch
      exact hpiece
  · exact fun h => ⟨_, h, rfl⟩

/-- A match in a text is one behind what stands before it, and what it takes stands there. -/
theorem exists_end_of_mem_matchesIn {p : Pattern} {text : List Char} {m : Match}
    (h : m ∈ p.matchesIn text) :
    ∃ before behind, text = before ++ m.text ++ behind ∧
      ∃ e ∈ p.ends ((Cursor.atStart text).after before),
        m = ((Cursor.atStart text).after before).matchTo e := by
  obtain ⟨before, behind, hscan⟩ := List.append_of_mem (mem_matchesIn_iff.1 h)
  obtain ⟨e, he, hm, -⟩ := exists_end_of_scan hscan
  refine ⟨before.flatMap Piece.text, behind.flatMap Piece.text, ?_, e, he, hm⟩
  have htext := flatMap_text_scan p text
  rw [hscan, List.flatMap_append, List.flatMap_cons, Piece.text, ← List.append_assoc] at htext
  exact htext.symm

end Pattern

end LiteralMarkdown
