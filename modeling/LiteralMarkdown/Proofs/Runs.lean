import LiteralMarkdown.Proofs.Forms
import Mathlib.Data.List.Chain

/-!
# Runs of a character

A text falls into the maximal runs of a character and what lies around them. `CharRuns d` is such a
cut of a text: what lies before the first run, and each run with what lies behind it up to the next
one.

* `CharRuns.text_ofText`: every text is cut at its runs;
* `CharRun.eq_of_append_eq`: the runs of a text are settled by it;
* `Form.Marking.skip_stretch`: a reading for entities passes a run in which none begins.
-/

namespace LiteralMarkdown

open Glyph

/-- A run of a character, and what lies behind it up to the next one. -/
structure CharRun (d : Char) where
  length : Nat
  behind : List Char
  length_pos : 0 < length
  not_mem_behind : d ∉ behind

/-- Something lies behind each run but the last. -/
def CharRun.Apart {d : Char} (runs : List (CharRun d)) : Prop :=
  runs.IsChain fun run _ => run.behind ≠ []

/-- A text cut at the runs of a character. -/
structure CharRuns (d : Char) where
  front : List Char
  runs : List (CharRun d)
  not_mem_front : d ∉ front
  apart : CharRun.Apart runs

variable {d : Char}

/-! ## Texts of runs -/

namespace CharRun

/-- The text of a run and of what lies behind it. -/
def text (run : CharRun d) : List Char := List.replicate run.length d ++ run.behind

theorem Apart.tail {run : CharRun d} {runs : List (CharRun d)} (h : Apart (run :: runs)) :
    Apart runs := List.IsChain.tail h

theorem Apart.behind_ne_nil {run : CharRun d} {runs : List (CharRun d)} (h : Apart (run :: runs))
    (hruns : runs ≠ []) : run.behind ≠ [] := by
  rcases List.exists_cons_of_ne_nil hruns with ⟨next, runs, rfl⟩
  exact (List.isChain_cons_cons.1 h).1

theorem Apart.cons {run : CharRun d} {runs : List (CharRun d)} (h : Apart runs)
    (hbehind : runs ≠ [] → run.behind ≠ []) : Apart (run :: runs) := by
  cases runs with
  | nil => exact .singleton run
  | cons next runs => exact .cons_cons (hbehind (List.cons_ne_nil next runs)) h

/-- What follows a run in the text lies between it and the next one: nothing does only if the text
ends there. -/
theorem Apart.head?_behind {run : CharRun d} {runs : List (CharRun d)} (h : Apart (run :: runs)) :
    (run.behind ++ runs.flatMap text).head? = run.behind.head? := by
  cases hbehind : run.behind with
  | nil =>
    have hruns : runs = [] := by
      by_contra hne
      exact h.behind_ne_nil hne hbehind
    rw [hruns]
    rfl
  | cons a behind => rfl

theorem flatMap_text_cons (run : CharRun d) (runs : List (CharRun d)) :
    (run :: runs).flatMap text =
      List.replicate run.length d ++ (run.behind ++ runs.flatMap text) := by
  rw [List.flatMap_cons, text, List.append_assoc]

/-- What lies behind a run up to the end of the text does not begin with the character. -/
theorem head?_append_flatMap_text_ne {behind : List Char} {runs : List (CharRun d)}
    (hbehind : d ∉ behind) (hruns : runs ≠ [] → behind ≠ []) :
    (behind ++ runs.flatMap text).head? ≠ some d := by
  cases behind with
  | nil =>
    cases runs with
    | nil => simp
    | cons next runs => exact absurd rfl (hruns (List.cons_ne_nil next runs))
  | cons a behind =>
    intro hhead
    exact hbehind (Option.some.inj hhead ▸ List.mem_cons_self)

end CharRun

namespace CharRuns

/-- The text that has been cut. -/
def text (cut : CharRuns d) : List Char := cut.front ++ cut.runs.flatMap CharRun.text

/-! ## Cutting a text -/

/-- The cut with one more character in front. -/
def cons (a : Char) (cut : CharRuns d) : CharRuns d :=
  if h : a = d then
    match cut with
    | ⟨[], [], _, _⟩ =>
      ⟨[], [⟨1, [], Nat.one_pos, List.not_mem_nil⟩], List.not_mem_nil, .singleton _⟩
    | ⟨[], run :: runs, _, apart⟩ =>
      ⟨[], { run with length := run.length + 1, length_pos := Nat.succ_pos _ } :: runs,
        List.not_mem_nil, apart.tail.cons apart.behind_ne_nil⟩
    | ⟨b :: front, runs, hfront, apart⟩ =>
      ⟨[], ⟨1, b :: front, Nat.one_pos, hfront⟩ :: runs, List.not_mem_nil,
        apart.cons fun _ => List.cons_ne_nil b front⟩
  else
    { cut with
      front := a :: cut.front
      not_mem_front := fun hmem => (List.mem_cons.1 hmem).elim (Ne.symm h) cut.not_mem_front }

/-- A text cut at the runs of a character. -/
def ofText (d : Char) : List Char → CharRuns d
  | [] => ⟨[], [], List.not_mem_nil, .nil⟩
  | a :: rest => cons a (ofText d rest)

theorem text_cons (a : Char) (cut : CharRuns d) : (cons a cut).text = a :: cut.text := by
  by_cases h : a = d
  · subst h
    rcases cut with ⟨front, runs, hfront, apart⟩
    unfold cons
    rw [dif_pos rfl]
    cases front with
    | cons b front => rfl
    | nil =>
      cases runs with
      | nil => rfl
      | cons run runs => rfl
  · unfold cons
    rw [dif_neg h]
    rfl

/-- Every text is cut at its runs. -/
theorem text_ofText (text : List Char) : (ofText d text).text = text := by
  induction text with
  | nil => rfl
  | cons a rest ih => rw [ofText, text_cons, ih]

end CharRuns

/-! ## Runs of different lengths -/

/-- A run that is followed by something else takes in each run with which the text begins. -/
theorem le_of_replicate_append_eq {n m : Nat} {x y : List Char} (hy : y.head? ≠ some d)
    (h : List.replicate n d ++ x = List.replicate m d ++ y) : n ≤ m := by
  induction n generalizing m with
  | zero => exact Nat.zero_le m
  | succ n ih =>
    cases m with
    | zero =>
      rw [List.replicate_zero, List.nil_append, List.replicate_succ, List.cons_append] at h
      rw [← h] at hy
      exact absurd rfl hy
    | succ m => exact Nat.succ_le_succ (ih (List.cons.inj h).2)

theorem replicate_append_inj {n m : Nat} {x y : List Char} (hx : x.head? ≠ some d)
    (hy : y.head? ≠ some d) (h : List.replicate n d ++ x = List.replicate m d ++ y) :
    n = m ∧ x = y := by
  obtain rfl := Nat.le_antisymm (le_of_replicate_append_eq hy h)
    (le_of_replicate_append_eq hx h.symm)
  exact ⟨rfl, List.append_cancel_left h⟩

/-- Where a text of runs is also a run, a body without the character and a run again, the runs and
the bodies are the same. -/
theorem CharRun.eq_of_append_eq {n j k : Nat} {behind body after : List Char}
    {runs : List (CharRun d)} (hbehind : d ∉ behind) (hruns : runs ≠ [] → behind ≠ [])
    (hbody : d ∉ body) (hne : body ≠ [])
    (h : List.replicate j d ++ (behind ++ runs.flatMap CharRun.text) =
      List.replicate n d ++ (body ++ (List.replicate (k + 1) d ++ after))) :
    j = n ∧ behind = body ∧ runs.flatMap CharRun.text = List.replicate (k + 1) d ++ after := by
  have hhead := CharRun.head?_append_flatMap_text_ne hbehind hruns
  have hhead' : (body ++ (List.replicate (k + 1) d ++ after)).head? ≠ some d := by
    cases body with
    | nil => exact absurd rfl hne
    | cons a body =>
      intro hhead
      exact hbody (Option.some.inj hhead ▸ List.mem_cons_self)
  rcases replicate_append_inj hhead hhead' h with ⟨rfl, hrest⟩
  refine ⟨rfl, ?_⟩
  cases runs with
  | nil =>
    -- The second run would have to lie in what holds none.
    rw [List.flatMap_nil, List.append_nil] at hrest
    exact absurd (hrest ▸ by simp [List.replicate_succ]) hbehind
  | cons run runs =>
    rcases Nat.exists_eq_add_one.2 run.length_pos with ⟨l, hl⟩
    rw [CharRun.flatMap_text_cons, hl] at hrest ⊢
    simp only [List.replicate_succ, List.cons_append] at hrest ⊢
    rcases Form.append_cons_inj_of_not_mem hbehind hbody hrest with ⟨rfl, hafter⟩
    exact ⟨rfl, by rw [hafter]⟩

/-! ## Reading over runs -/

namespace Form

variable {form : Form}

/-- A run of delimiters in which no entity begins is skipped. -/
theorem Marking.skip_run {rest : List Char} {gs : List Glyph} {n : Nat}
    (hnone : ∀ i < n, form.Absent (List.replicate (i + 1) form.delimiter ++ rest))
    (next : form.Marking rest gs) :
    form.Marking (List.replicate n form.delimiter ++ rest)
      (ofText false (List.replicate n form.delimiter) ++ gs) := by
  induction n with
  | zero => exact next
  | succ n ih =>
    have habsent := hnone n (Nat.lt_succ_self n)
    rw [List.replicate_succ, List.cons_append] at habsent ⊢
    exact .skip habsent (ih fun i hi => hnone i (Nat.lt_succ_of_lt hi))

/-- A run in which no entity begins is skipped with what lies behind it. -/
theorem Marking.skip_stretch {x rest : List Char} {gs : List Glyph} {n : Nat}
    (hx : form.delimiter ∉ x)
    (hnone : ∀ i < n, form.Absent (List.replicate (i + 1) form.delimiter ++ (x ++ rest)))
    (next : form.Marking rest gs) :
    form.Marking (List.replicate n form.delimiter ++ (x ++ rest))
      (ofText false (List.replicate n form.delimiter ++ x) ++ gs) := by
  have hmarks : ofText false (List.replicate n form.delimiter ++ x) ++ gs =
      ofText false (List.replicate n form.delimiter) ++ (ofText false x ++ gs) := by
    rw [ofText, List.map_append, List.append_assoc]
    rfl
  rw [hmarks]
  exact Marking.skip_run hnone (Marking.skip_free hx next)

theorem marked_append (n : Nat) (body : List Char) (k : Nat) (gs : List Glyph) :
    form.marked n body k ++ gs = ofText true (List.replicate n form.delimiter) ++
      (ofText false body ++ (ofText true (List.replicate k form.delimiter) ++ gs)) := by
  simp [marked, ofText]

end Form

end LiteralMarkdown
