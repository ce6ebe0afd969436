import LiteralMarkdown.Proofs.Forms.Recognition
import LiteralMarkdown.Proofs.Runs

/-!
# Coupling of runs

The rule for single underscores marks a text in one pass over the runs of underscores. A run is
coupled with the next one if that one is a single underscore at the end of a word: the last
underscore of the first run and the single one of the second run are marked, and the pass goes on
behind both. In all other cases nothing is marked and the pass goes on with the next run. So it
depends on all runs before a run whether that run is left to open a pair.

* `Form.at_of_endsWord` and `Form.At.endsWord`: an entity begins with the last underscore of a run
  just if the next run ends a word;
* `Form.marking_coupled`: what this pass marks is what the form of the rule marks;
* `escapeDelimiters_eq_coupled`: so the rule escapes just what it marks.
-/

namespace LiteralMarkdown

open Glyph

/-! ## The pass -/

/-- The run is a single character, and no word character follows it. -/
def CharRun.EndsWord {d : Char} (run : CharRun d) : Prop :=
  run.length = 1 ∧ run.behind.head?.any Text.isWord = false

instance {d : Char} (run : CharRun d) : Decidable run.EndsWord :=
  inferInstanceAs (Decidable (_ ∧ _))

/-- The marks of runs and of what lies behind them. -/
def CharRun.coupled {d : Char} : List (CharRun d) → List Glyph
  | [] => []
  | [run] => ofText false run.text
  | run :: next :: runs =>
    if next.EndsWord then
      ofText false (List.replicate (run.length - 1) d) ++
        (ofText true [d] ++ (ofText false run.behind ++
          (ofText true [d] ++ (ofText false next.behind ++ coupled runs))))
    else ofText false run.text ++ coupled (next :: runs)

/-- The marks of a text that has been cut. -/
def CharRuns.coupled {d : Char} (cut : CharRuns d) : List Glyph :=
  Glyph.ofText false cut.front ++ CharRun.coupled cut.runs

/-! ## The pass marks what the form marks -/

namespace Form

variable {run next : CharRun '_'} {runs : List (CharRun '_')}

/-- Where the next run ends a word, the last underscore of a run opens an entity that it closes. -/
theorem at_of_endsWord (hapart : CharRun.Apart (run :: next :: runs)) (hnext : next.EndsWord) :
    underscored.At (List.replicate 1 '_' ++ (run.behind ++ (next :: runs).flatMap CharRun.text))
      1 run.behind 1 (next.behind ++ runs.flatMap CharRun.text) := by
  rcases hnext with ⟨hlength, hword⟩
  have hne : run.behind ≠ [] := hapart.behind_ne_nil (List.cons_ne_nil next runs)
  refine ⟨?_, rfl, rfl, hne, run.not_mem_behind, ?_⟩
  · rw [CharRun.flatMap_text_cons, hlength]
    rfl
  · rw [hapart.tail.head?_behind]
    exact hword

/-- An entity that begins in a run begins with its last underscore, and the next run closes it. -/
theorem At.endsWord {j n k : Nat} {body after : List Char} (hapart : CharRun.Apart (run :: runs))
    (h : underscored.At (List.replicate j '_' ++ (run.behind ++ runs.flatMap CharRun.text))
      n body k after) :
    j = 1 ∧ ∃ next others, runs = next :: others ∧ next.EndsWord := by
  rcases h with ⟨htext, rfl, rfl, hne, hbody, hword⟩
  obtain ⟨hj, -, hafter⟩ :=
    CharRun.eq_of_append_eq run.not_mem_behind hapart.behind_ne_nil hbody hne htext
  refine ⟨hj, ?_⟩
  cases runs with
  | nil => cases hafter
  | cons next others =>
    refine ⟨next, others, rfl, ?_⟩
    rcases Nat.exists_eq_add_one.2 next.length_pos with ⟨l, hl⟩
    rw [CharRun.flatMap_text_cons, hl] at hafter
    simp only [List.replicate_succ, List.replicate_zero, List.cons_append, List.nil_append,
      List.cons.injEq, true_and] at hafter
    rw [← hafter] at hword
    cases l with
    | zero =>
      rw [List.replicate_zero, List.nil_append, hapart.tail.head?_behind] at hword
      exact ⟨hl, hword⟩
    | succ l =>
      -- Another underscore follows the closing one, and an underscore is a word character.
      rw [List.replicate_succ, List.cons_append, List.head?_cons] at hword
      exact absurd hword (by decide)

/-- A run is passed over if the next one does not end a word. -/
theorem marking_uncoupled {gs : List Glyph} (hapart : CharRun.Apart (run :: runs))
    (hnone : ∀ next others, runs = next :: others → ¬ next.EndsWord)
    (hnext : underscored.Marking (runs.flatMap CharRun.text) gs) :
    underscored.Marking ((run :: runs).flatMap CharRun.text) (ofText false run.text ++ gs) := by
  rw [CharRun.flatMap_text_cons]
  refine Marking.skip_stretch run.not_mem_behind ?_ hnext
  intro i _ n body k after hat
  rcases At.endsWord hapart hat with ⟨-, next, others, hruns, hword⟩
  exact hnone next others hruns hword

/-- A run is coupled with the next one if that one ends a word. -/
theorem marking_coupling {gs : List Glyph} (hapart : CharRun.Apart (run :: next :: runs))
    (hword : next.EndsWord) (hnext : underscored.Marking (runs.flatMap CharRun.text) gs) :
    underscored.Marking ((run :: next :: runs).flatMap CharRun.text)
      (ofText false (List.replicate (run.length - 1) '_') ++
        (ofText true ['_'] ++ (ofText false run.behind ++
          (ofText true ['_'] ++ (ofText false next.behind ++ gs))))) := by
  have hlast : List.replicate run.length '_' =
      List.replicate (run.length - 1) '_' ++ List.replicate 1 '_' := by
    have hpos := run.length_pos
    rw [List.replicate_append_replicate, Nat.sub_add_cancel hpos]
  have hnone : underscored.delimiter ∉ next.behind := next.not_mem_behind
  have hbehind := Marking.skip_free hnone hnext
  -- An entity that begins at the last underscore of the run has just one to open it.
  have hpair := Marking.take (at_of_endsWord hapart hword)
    (fun n body k after hother => hother.entity.1.le) hbehind
  rw [marked_append] at hpair
  -- None begins before it.
  have hbefore : ∀ i < run.length - 1, underscored.Absent
      (List.replicate (i + 1) '_' ++ (List.replicate 1 '_' ++
        (run.behind ++ (next :: runs).flatMap CharRun.text))) := by
    intro i _ n body k after hat
    rw [← List.append_assoc, List.replicate_append_replicate] at hat
    rcases At.endsWord hapart hat with ⟨hone, -⟩
    omega
  rw [CharRun.flatMap_text_cons, hlast, List.append_assoc]
  exact Marking.skip_run hbefore hpair

/-- The pass marks what the form for single underscores marks. -/
theorem marking_coupled (hapart : CharRun.Apart runs) :
    underscored.Marking (runs.flatMap CharRun.text) (CharRun.coupled runs) := by
  induction runs using CharRun.coupled.induct with
  | case1 => exact .stop
  | case2 run =>
    have hmarking := marking_uncoupled hapart (fun next others hruns => by cases hruns) .stop
    rw [List.append_nil] at hmarking
    exact hmarking
  | case3 run next runs hword ih =>
    rw [CharRun.coupled, if_pos hword]
    exact marking_coupling hapart hword (ih hapart.tail.tail)
  | case4 run next runs hword ih =>
    rw [CharRun.coupled, if_neg hword]
    refine marking_uncoupled hapart ?_ (ih hapart.tail)
    intro other others hruns
    rw [← (List.cons.inj hruns).1]
    exact hword

end Form

/-! ## The rule -/

/-- The rule for single underscores escapes what one pass over the runs of underscores couples, and
leaves everything else as it is. -/
theorem escapeDelimiters_eq_coupled (text : List Char) :
    (CharRuns.ofText '_' text).text = text ∧
    plain (CharRuns.ofText '_' text).coupled = text ∧
    escapeDelimiters .underscoreEmphasis text = shown (CharRuns.ofText '_' text).coupled := by
  have hcut := CharRuns.text_ofText (d := '_') text
  have hmarking : Form.underscored.Marking text (CharRuns.ofText '_' text).coupled := by
    generalize CharRuns.ofText '_' text = cut at hcut ⊢
    rw [← hcut]
    exact Form.Marking.skip_free cut.not_mem_front (Form.marking_coupled cut.apart)
  refine ⟨hcut, hmarking.plain_eq, ?_⟩
  have hmarks := (EscapeRule.recognizes_underscoreEmphasis.marking text).unique hmarking
  rw [← hmarks, EscapeRule.shown_marks]

-- The second run closes the first one and so opens nothing; the third one is left to open a pair.
example : shown (CharRuns.ofText '_' "__a_ b__c_".toList).coupled =
    "_\\_a\\_ b_\\_c\\_".toList := by
  decide

end LiteralMarkdown
