import LiteralMarkdown.Proofs.Pattern.Reach
import Mathlib.Computability.Language

/-!
# Languages of patterns

A pattern that neither looks around nor keeps or repeats a group accepts a language: it matches
just the stretches of the text ahead that are words of it, wherever it stands. `Pattern.Accepts`
says so, and the lemmas build the language of a pattern from those of its parts.
-/

namespace LiteralMarkdown

open Computability

/-- The words that have a property. -/
def wordsWhere (P : List Char → Prop) : Language Char := {x | P x}

theorem mem_wordsWhere {P : List Char → Prop} {x : List Char} : x ∈ wordsWhere P ↔ P x := Iff.rfl

/-- The words of one character of a set. -/
def CharSet.words (set : CharSet) : Language Char := {x | ∃ a, set.has a = true ∧ x = [a]}

theorem CharSet.mem_words {set : CharSet} {x : List Char} :
    x ∈ set.words ↔ ∃ a, set.has a = true ∧ x = [a] := Iff.rfl

theorem CharSet.mem_words_kstar {set : CharSet} {x : List Char} :
    x ∈ set.words∗ ↔ ∀ a ∈ x, set.has a = true := by
  rw [Language.mem_kstar]
  constructor
  · rintro ⟨parts, rfl, h⟩ a ha
    rcases List.mem_flatten.1 ha with ⟨y, hy, hay⟩
    rcases h y hy with ⟨b, hb, rfl⟩
    have : a = b := by simpa using hay
    exact this ▸ hb
  · intro h
    refine ⟨x.map ([·]), ?_, fun y hy => ?_⟩
    · rw [← List.flatMap_def, List.flatMap_singleton']
    · rcases List.mem_map.1 hy with ⟨a, ha, rfl⟩
      exact ⟨a, h a ha, rfl⟩

theorem CharSet.mem_words_mul_kstar {set : CharSet} {x : List Char} :
    x ∈ set.words * set.words∗ ↔ x ≠ [] ∧ ∀ a ∈ x, set.has a = true := by
  rw [Language.mem_mul]
  constructor
  · rintro ⟨_, ⟨a, ha, rfl⟩, y, hy, rfl⟩
    rw [mem_words_kstar] at hy
    exact ⟨by simp, fun b hb => (List.mem_cons.1 hb).elim (fun h => h ▸ ha) (hy b)⟩
  · rintro ⟨hne, h⟩
    rcases List.exists_cons_of_ne_nil hne with ⟨a, y, rfl⟩
    refine ⟨[a], ⟨a, h a List.mem_cons_self, rfl⟩, y, ?_, rfl⟩
    exact mem_words_kstar.2 fun b hb => h b (List.mem_cons_of_mem a hb)

theorem CharSet.has_only {d a : Char} : (CharSet.only d).has a = true ↔ a = d := by
  simp [only, has, Item.has]

theorem CharSet.has_noneOf {d a : Char} : (CharSet.noneOf [d]).has a = true ↔ a ≠ d := by
  simp [noneOf, has, Item.has]

theorem CharSet.mem_words_only {d : Char} {x : List Char} :
    x ∈ (CharSet.only d).words ↔ x = [d] := by
  simp [mem_words, has_only]

/-- Repetitions of one character are runs of it. -/
theorem CharSet.mem_words_only_pow_mul_kstar {d : Char} {least : Nat} {x : List Char} :
    x ∈ (CharSet.only d).words ^ least * (CharSet.only d).words∗ ↔
      ∃ n, least ≤ n ∧ x = List.replicate n d := by
  have hpow : ∀ y : List Char,
      y ∈ (CharSet.only d).words ^ least ↔ y = List.replicate least d := by
    induction least with
    | zero => simp [Language.mem_one]
    | succ least ih =>
      intro y
      simp only [pow_succ', Language.mem_mul, mem_words_only, ih, exists_eq_left,
        List.replicate_succ, List.singleton_append, eq_comm]
  have hstar : ∀ y : List Char, y ∈ (CharSet.only d).words∗ ↔ ∃ n, y = List.replicate n d := by
    intro y
    simp only [mem_words_kstar, has_only]
    constructor
    · exact fun h => ⟨y.length, List.eq_replicate_of_mem h⟩
    · rintro ⟨n, rfl⟩ a ha
      exact List.eq_of_mem_replicate ha
  rw [Language.mem_mul]
  constructor
  · rintro ⟨y, hy, z, hz, rfl⟩
    rcases (hstar z).1 hz with ⟨n, rfl⟩
    exact ⟨least + n, Nat.le_add_right _ _, by rw [(hpow y).1 hy, List.replicate_append_replicate]⟩
  · rintro ⟨n, hn, rfl⟩
    refine ⟨_, (hpow _).2 rfl, _, (hstar _).2 ⟨n - least, rfl⟩, ?_⟩
    rw [List.replicate_append_replicate, Nat.add_sub_cancel' hn]

namespace Pattern

open Cursor

/-- The pattern matches just the words of the language, at every place and whatever groups have
kept. -/
def Accepts (p : Pattern) (L : Language Char) : Prop :=
  ∀ c e, e ∈ p.ends c ↔ ∃ x ∈ L, x <+: c.rest ∧ e = c.after x

theorem Accepts.exists_reaches {p : Pattern} {L : Language Char} (hp : p.Accepts L) {c e : Cursor}
    (he : e ∈ p.ends c) : ∃ x ∈ L, c.Reaches x e ∧ e.captured = c.captured := by
  rcases (hp c e).1 he with ⟨x, hx, hpre, rfl⟩
  exact ⟨x, hx, reaches_after hpre, rfl⟩

/-- A pattern accepts the words of its language however they are described. -/
theorem Accepts.of_iff {p : Pattern} {L : Language Char} {P : List Char → Prop} (hp : p.Accepts L)
    (h : ∀ x, P x ↔ x ∈ L) : p.Accepts (wordsWhere P) := by
  intro c e
  simp only [hp c e, mem_wordsWhere, h]

theorem accepts_empty : Accepts .empty 1 := by
  intro c e
  simp [ends, Language.mem_one]

theorem accepts_chars (allowed : CharSet) : Accepts (.chars allowed) allowed.words := by
  intro c e
  have hstep : e ∈ (Pattern.chars allowed).ends c ↔ c.step? allowed = some e := by simp [ends]
  rw [hstep, step?_eq_some_iff]
  constructor
  · rintro ⟨a, ha, hpre, rfl⟩
    exact ⟨[a], ⟨a, ha, rfl⟩, hpre, rfl⟩
  · rintro ⟨_, ⟨a, ha, rfl⟩, hpre, rfl⟩
    exact ⟨a, ha, hpre, rfl⟩

theorem accepts_char (d : Char) : (Pattern.char d).Accepts (CharSet.only d).words := accepts_chars _

/-- One word and then another lie ahead just if the second lies ahead behind the first. -/
theorem append_prefix_rest_iff {c : Cursor} {x y : List Char} :
    x ++ y <+: c.rest ↔ x <+: c.rest ∧ y <+: (c.after x).rest := by
  constructor
  · rintro ⟨r, hr⟩
    rw [List.append_assoc] at hr
    exact ⟨⟨y ++ r, hr⟩, ⟨r, (after_rest hr.symm).symm⟩⟩
  · rintro ⟨⟨r, hr⟩, s, hs⟩
    rw [after_rest hr.symm] at hs
    exact ⟨s, by rw [List.append_assoc, hs, hr]⟩

/-- The words of a product that lie ahead are reached by way of its factors. -/
theorem exists_mem_mul_iff {L M : Language Char} {c e : Cursor} :
    (∃ x ∈ L * M, x <+: c.rest ∧ e = c.after x) ↔
      ∃ d, (∃ x ∈ L, x <+: c.rest ∧ d = c.after x) ∧ ∃ y ∈ M, y <+: d.rest ∧ e = d.after y := by
  constructor
  · rintro ⟨_, hxy, hpre, rfl⟩
    rcases Language.mem_mul.1 hxy with ⟨x, hx, y, hy, rfl⟩
    rcases append_prefix_rest_iff.1 hpre with ⟨hpx, hpy⟩
    exact ⟨c.after x, ⟨x, hx, hpx, rfl⟩, y, hy, hpy, after_append c x y⟩
  · rintro ⟨_, ⟨x, hx, hpx, rfl⟩, y, hy, hpy, rfl⟩
    exact ⟨x ++ y, Language.append_mem_mul hx hy, append_prefix_rest_iff.2 ⟨hpx, hpy⟩,
      (after_append c x y).symm⟩

theorem Accepts.seq {p q : Pattern} {L M : Language Char} (hp : p.Accepts L) (hq : q.Accepts M) :
    (p ++ q).Accepts (L * M) := by
  intro c e
  rw [mem_ends_append, exists_mem_mul_iff]
  constructor
  · rintro ⟨d, hd, he⟩
    exact ⟨d, (hp c d).1 hd, (hq d e).1 he⟩
  · rintro ⟨d, hd, he⟩
    exact ⟨d, (hp c d).2 hd, (hq d e).2 he⟩

theorem Accepts.alt {p q : Pattern} {L M : Language Char} (hp : p.Accepts L) (hq : q.Accepts M) :
    (Pattern.alt p q).Accepts (L + M) := by
  intro c e
  have happ : e ∈ (Pattern.alt p q).ends c ↔ e ∈ p.ends c ∨ e ∈ q.ends c := List.mem_append
  rw [happ, hp c e, hq c e]
  constructor
  · rintro (⟨x, hx, h⟩ | ⟨x, hx, h⟩)
    · exact ⟨x, Or.inl hx, h⟩
    · exact ⟨x, Or.inr hx, h⟩
  · rintro ⟨x, hx | hx, h⟩
    · exact Or.inl ⟨x, hx, h⟩
    · exact Or.inr ⟨x, hx, h⟩

/-! ## Repetition -/

theorem Accepts.mem_timesEnds_iff {p : Pattern} {L : Language Char} (hp : p.Accepts L) (n : Nat)
    (c e : Cursor) :
    e ∈ timesEnds p.ends n c ↔ ∃ x ∈ L ^ n, x <+: c.rest ∧ e = c.after x := by
  induction n generalizing c with
  | zero => simp [timesEnds, Language.mem_one]
  | succ n ih =>
    rw [pow_succ', exists_mem_mul_iff]
    simp only [timesEnds, List.mem_flatMap, ih, hp c]

/-- The number of characters ahead is turns enough: a turn that counts passes at least one. -/
theorem Accepts.mem_repeatEnds_iff {p : Pattern} {L : Language Char} (hp : p.Accepts L)
    (greed : Greed) {fuel : List Char} {c e : Cursor} (hfuel : c.rest.length ≤ fuel.length) :
    e ∈ repeatEnds p.ends greed fuel c ↔ ∃ x ∈ L∗, x <+: c.rest ∧ e = c.after x := by
  constructor
  · -- Fuel only limits the ends, so each of them is reached over words whatever the fuel is.
    intro he
    clear hfuel
    induction fuel generalizing c with
    | nil =>
      have : e = c := by simpa [repeatEnds] using he
      exact ⟨[], Language.nil_mem_kstar L, List.nil_prefix, by simp [this]⟩
    | cons a fuel ih =>
      rcases mem_repeatEnds_cons.1 he with rfl | ⟨d, hd, -, he⟩
      · exact ⟨[], Language.nil_mem_kstar L, List.nil_prefix, by simp⟩
      · have hstep : ∃ x ∈ L * L∗, x <+: c.rest ∧ e = c.after x :=
          exists_mem_mul_iff.2 ⟨d, (hp c d).1 hd, ih he⟩
        rcases hstep with ⟨x, hx, h⟩
        refine ⟨x, ?_, h⟩
        rw [← Language.one_add_self_mul_kstar_eq_kstar]
        exact Or.inr hx
  · -- A word of the star is made of nonempty ones, and each of these takes a turn.
    rintro ⟨x, hx, hpre, rfl⟩
    rcases Language.mem_kstar_iff_exists_nonempty.1 hx with ⟨parts, rfl, hparts⟩
    clear hx
    induction parts generalizing fuel c with
    | nil => cases fuel <;> cases greed <;> simp [repeatEnds]
    | cons y parts ih =>
      rcases hparts y List.mem_cons_self with ⟨hy, hne⟩
      have hpos : 0 < y.length := List.length_pos_iff.2 hne
      rw [List.flatten_cons] at hpre ⊢
      rcases append_prefix_rest_iff.1 hpre with ⟨hpy, hpr⟩
      have hlen : c.rest.length = y.length + (c.after y).rest.length := by
        have := congrArg List.length (reaches_after hpy).rest
        rwa [List.length_append] at this
      cases fuel with
      | nil =>
        rw [List.length_nil] at hfuel
        omega
      | cons a fuel =>
        rw [List.length_cons] at hfuel
        rw [after_append]
        refine mem_repeatEnds_cons.2 (Or.inr ⟨c.after y, (hp c _).2 ⟨y, hy, hpy, rfl⟩, ?_, ?_⟩)
        · rw [after_position]
          omega
        · exact ih (by omega) (fun z hz => hparts z (List.mem_cons_of_mem y hz)) hpr

theorem Accepts.atLeast {p : Pattern} {L : Language Char} (hp : p.Accepts L) (n : Nat)
    (greed : Greed) : (Pattern.atLeast n greed p).Accepts (L ^ n * L∗) := by
  intro c e
  rw [exists_mem_mul_iff]
  simp only [ends, List.mem_flatMap, hp.mem_timesEnds_iff, hp.mem_repeatEnds_iff greed le_rfl]

theorem Accepts.zeroOrMore {p : Pattern} {L : Language Char} (hp : p.Accepts L) :
    p.zeroOrMore.Accepts L∗ := by
  have := hp.atLeast 0 .greedy
  rwa [pow_zero, one_mul] at this

theorem Accepts.oneOrMore {p : Pattern} {L : Language Char} (hp : p.Accepts L) :
    p.oneOrMore.Accepts (L * L∗) := by
  have := hp.atLeast 1 .greedy
  rwa [pow_one] at this

/-! ## Runs of characters -/

theorem accepts_char_only (d : Char) : (Pattern.char d).Accepts (wordsWhere (· = [d])) :=
  (accepts_char d).of_iff fun _ => CharSet.mem_words_only.symm

theorem accepts_zeroOrMore_chars (set : CharSet) :
    (zeroOrMore (.chars set)).Accepts (wordsWhere fun x => ∀ a ∈ x, set.has a = true) :=
  (accepts_chars set).zeroOrMore.of_iff fun _ => CharSet.mem_words_kstar.symm

theorem accepts_oneOrMore_chars (set : CharSet) :
    (oneOrMore (.chars set)).Accepts (wordsWhere fun x => x ≠ [] ∧ ∀ a ∈ x, set.has a = true) :=
  (accepts_chars set).oneOrMore.of_iff fun _ => CharSet.mem_words_mul_kstar.symm

theorem accepts_atLeast_char (least : Nat) (greed : Greed) (d : Char) :
    (Pattern.atLeast least greed (.char d)).Accepts
      (wordsWhere fun x => ∃ n, least ≤ n ∧ x = List.replicate n d) :=
  ((accepts_char d).atLeast least greed).of_iff fun _ => CharSet.mem_words_only_pow_mul_kstar.symm

theorem accepts_literal (x : List Char) : (literal x).Accepts (wordsWhere (· = x)) := by
  induction x with
  | nil => exact accepts_empty.of_iff fun y => by simp [Language.mem_one]
  | cons a x ih =>
    -- A sequence of one pattern is that pattern, so the last character is a case of its own.
    cases x with
    | nil => exact accepts_char_only a
    | cons b x =>
      refine ((accepts_char_only a).seq ih).of_iff fun y => ?_
      simp only [Language.mem_mul, mem_wordsWhere, exists_eq_left, List.singleton_append, eq_comm]

end Pattern

end LiteralMarkdown
