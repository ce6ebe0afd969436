import LiteralMarkdown.Proofs.Forms.Recognition
import LiteralMarkdown.Proofs.Runs

/-!
# Pairing of runs

The rules for asterisks, tildes and two or more underscores mark a text in one pass over the runs of
their delimiter. Of a run some characters at its end are pending. They are paired with as many at
the beginning of the next run as there are in the shorter of the two, if these are enough to make a
pair; then the rest of the next run is pending. If they are not enough then the whole next run is
pending.

* `CharRun.marking_paired`: what this pass marks is what a form with delimiters on both sides marks;
* `escapeDelimiters_eq_paired`: so the three rules escape just what it marks.
-/

namespace LiteralMarkdown

open Glyph

variable {d : Char}

/-! ## The pass -/

/-- The marks of the pending characters of a run, of what lies behind them, and of the runs that
follow. Pairs have at least `least` characters on each side. -/
def CharRun.paired (least : Nat) :
    (pending : Nat) → (behind : List Char) → List (CharRun d) → List Glyph
  | pending, behind, [] => ofText false (List.replicate pending d ++ behind)
  | pending, behind, run :: runs =>
    let k := min pending run.length
    if least ≤ k then
      ofText false (List.replicate (pending - k) d) ++
        (ofText true (List.replicate k d) ++ (ofText false behind ++
          (ofText true (List.replicate k d) ++ paired least (run.length - k) run.behind runs)))
    else
      ofText false (List.replicate pending d ++ behind) ++
        paired least run.length run.behind runs

/-- The marks of a text that has been cut. At first the whole first run is pending. -/
def CharRuns.paired (least : Nat) (cut : CharRuns d) : List Glyph :=
  Glyph.ofText false cut.front ++
    match cut.runs with
    | [] => []
    | run :: runs => CharRun.paired least run.length run.behind runs

/-! ## The pass marks what the form marks -/

namespace Form

variable {least : Nat} {hleast : 0 < least}

/-- An entity that begins in a run has the rest of the run as its opening delimiters and what lies
behind the run as its body. -/
theorem At.of_run {n j k : Nat} {behind body after : List Char} {runs : List (CharRun d)}
    (hbehind : d ∉ behind) (hruns : runs ≠ [] → behind ≠ [])
    (h : (paired d least false hleast).At
      (List.replicate j d ++ (behind ++ runs.flatMap CharRun.text)) n body k after) :
    n = j ∧ least ≤ n ∧ runs.flatMap CharRun.text = List.replicate n d ++ after := by
  rcases h with ⟨htext, hn, rfl, hbody, hne⟩
  have hbody' : body ≠ [] := fun hnil => Bool.false_ne_true (hne hnil)
  rcases Nat.exists_eq_add_one.2 (Nat.lt_of_lt_of_le hleast hn) with ⟨m, rfl⟩
  rcases CharRun.eq_of_append_eq hbehind hruns hbody hbody' htext with ⟨rfl, -, hafter⟩
  exact ⟨rfl, hn, hafter⟩

theorem At.le_of_run {n j k : Nat} {behind body after : List Char} {run : CharRun d}
    {runs : List (CharRun d)} (hbehind : d ∉ behind) (hne : behind ≠ [])
    (hapart : CharRun.Apart (run :: runs))
    (h : (paired d least false hleast).At
      (List.replicate j d ++ (behind ++ (run :: runs).flatMap CharRun.text)) n body k after) :
    n = j ∧ least ≤ n ∧ n ≤ run.length := by
  rcases h.of_run hbehind fun _ => hne with ⟨hj, hn, hafter⟩
  rw [CharRun.flatMap_text_cons] at hafter
  have hhead := CharRun.head?_append_flatMap_text_ne run.not_mem_behind hapart.behind_ne_nil
  exact ⟨hj, hn, le_of_replicate_append_eq hhead hafter.symm⟩

/-- The shorter of two runs is taken from the end of the first one and from the beginning of the
second one. -/
theorem marking_pair {pending : Nat} {behind : List Char} {run : CharRun d}
    {runs : List (CharRun d)} {gs : List Glyph} (hbehind : d ∉ behind) (hne : behind ≠ [])
    (hapart : CharRun.Apart (run :: runs)) (hleast' : least ≤ min pending run.length)
    (next : (paired d least false hleast).Marking
      (List.replicate (run.length - min pending run.length) d ++
        (run.behind ++ runs.flatMap CharRun.text)) gs) :
    (paired d least false hleast).Marking
      (List.replicate pending d ++ (behind ++ (run :: runs).flatMap CharRun.text))
      (ofText false (List.replicate (pending - min pending run.length) d) ++
        (paired d least false hleast).marked (min pending run.length) behind
          (min pending run.length) ++ gs) := by
  generalize hk : min pending run.length = k at hleast' next ⊢
  have hpending : List.replicate pending d =
      List.replicate (pending - k) d ++ List.replicate k d := by
    rw [List.replicate_append_replicate, Nat.sub_add_cancel (by omega)]
  have hrun : List.replicate run.length d =
      List.replicate k d ++ List.replicate (run.length - k) d := by
    rw [List.replicate_append_replicate, Nat.add_sub_cancel' (by omega)]
  have hat : (paired d least false hleast).At
      (List.replicate k d ++ (behind ++ (run :: runs).flatMap CharRun.text)) k behind k
      (List.replicate (run.length - k) d ++ (run.behind ++ runs.flatMap CharRun.text)) := by
    refine ⟨?_, hleast', rfl, hbehind, fun h => absurd h hne⟩
    rw [CharRun.flatMap_text_cons, hrun, List.append_assoc]
    rfl
  -- In front of the pair lie more characters than the next run can close.
  have hnone : ∀ i < pending - k, (paired d least false hleast).Absent
      (List.replicate (i + 1) d ++
        (List.replicate k d ++ (behind ++ (run :: runs).flatMap CharRun.text))) := by
    intro i hi n body k' after hother
    rw [← List.append_assoc, List.replicate_append_replicate] at hother
    rcases hother.le_of_run hbehind hne hapart with ⟨rfl, -, hle⟩
    omega
  rw [hpending, List.append_assoc, List.append_assoc]
  refine Marking.skip_run hnone (Marking.take hat (fun n body k' after hother => ?_) next)
  rcases hother.le_of_run hbehind hne hapart with ⟨rfl, -, -⟩
  exact Nat.le_refl n

/-- The pass marks what a form with delimiters on both sides marks. -/
theorem marking_paired {pending : Nat} {behind : List Char} {runs : List (CharRun d)}
    (hbehind : d ∉ behind) (hruns : runs ≠ [] → behind ≠ []) (hapart : CharRun.Apart runs) :
    (paired d least false hleast).Marking
      (List.replicate pending d ++ (behind ++ runs.flatMap CharRun.text))
      (CharRun.paired least pending behind runs) := by
  induction runs generalizing pending behind with
  | nil =>
    have hnone : ∀ i < pending, (paired d least false hleast).Absent
        (List.replicate (i + 1) d ++ (behind ++ ([] : List (CharRun d)).flatMap CharRun.text)) := by
      intro i _ n body k after hat
      rcases hat.of_run hbehind hruns with ⟨rfl, -, hafter⟩
      simp [List.replicate_succ] at hafter
    have hmarking := Marking.skip_stretch hbehind hnone .stop
    rw [List.append_nil] at hmarking
    exact hmarking
  | cons run runs ih =>
    have hne := hruns (List.cons_ne_nil run runs)
    have hrest (pending : Nat) : (paired d least false hleast).Marking
        (List.replicate pending d ++ (run.behind ++ runs.flatMap CharRun.text))
        (CharRun.paired least pending run.behind runs) :=
      ih run.not_mem_behind hapart.behind_ne_nil hapart.tail
    by_cases hk : least ≤ min pending run.length
    · rw [CharRun.paired, if_pos hk]
      have hmarking := marking_pair hbehind hne hapart hk (hrest _)
      rw [List.append_assoc, marked_append] at hmarking
      exact hmarking
    · rw [CharRun.paired, if_neg hk]
      have hnone : ∀ i < pending, (paired d least false hleast).Absent
          (List.replicate (i + 1) d ++ (behind ++ (run :: runs).flatMap CharRun.text)) := by
        intro i hi n body k after hat
        rcases hat.le_of_run hbehind hne hapart with ⟨rfl, hn, hle⟩
        omega
      rw [CharRun.flatMap_text_cons] at hnone ⊢
      exact Marking.skip_stretch hbehind hnone (hrest run.length)

end Form

/-! ## The rules -/

/-- A rule for such a form marks in a text what the pass over its runs marks. -/
theorem EscapeRule.Recognizes.marks_eq_paired {rule : EscapeRule} {least : Nat}
    {hleast : 0 < least} (h : rule.Recognizes (.paired d least false hleast)) (text : List Char) :
    rule.marks text = (CharRuns.ofText d text).paired least := by
  have hcut := CharRuns.text_ofText (d := d) text
  generalize CharRuns.ofText d text = cut at hcut ⊢
  have hmarking : (Form.paired d least false hleast).Marking cut.text (cut.paired least) := by
    rcases cut with ⟨front, runs, hfront, hapart⟩
    refine Form.Marking.skip_free hfront ?_
    cases runs with
    | nil => exact .stop
    | cons run runs =>
      rw [CharRun.flatMap_text_cons]
      exact Form.marking_paired run.not_mem_behind hapart.behind_ne_nil hapart.tail
  exact (h.marking text).unique (hcut ▸ hmarking)

/-- The rules for asterisks, tildes and two or more underscores escape what one pass over the runs
of their delimiter pairs. -/
theorem escapeDelimiters_eq_paired (text : List Char) :
    escapeDelimiters .asteriskEmphasis text = shown ((CharRuns.ofText '*' text).paired 1) ∧
    escapeDelimiters .tildeStrikethrough text = shown ((CharRuns.ofText '~' text).paired 1) ∧
    escapeDelimiters .underscoreStrong text = shown ((CharRuns.ofText '_' text).paired 2) := by
  refine ⟨?_, ?_, ?_⟩
  · rw [← EscapeRule.recognizes_asteriskEmphasis.marks_eq_paired, EscapeRule.shown_marks]
  · rw [← EscapeRule.recognizes_tildeStrikethrough.marks_eq_paired, EscapeRule.shown_marks]
  · rw [← EscapeRule.recognizes_underscoreStrong.marks_eq_paired, EscapeRule.shown_marks]

-- The single asterisk closes one of the first three; the two that are left open nothing.
example : shown ((CharRuns.ofText '*' "***a*b**".toList).paired 1) = "**\\*a\\*b**".toList := by
  decide

end LiteralMarkdown
