import LiteralMarkdown.Proofs.Layers

/-!
# Texts and their escaped readings

What can be said of a text that has been escaped when the escaped text is known. `Glyph.spelled` is
the shown reading of a marked text with the marks kept, so that it tells the backslashes that were
put in from those that were there.

* `exists_parts_of_spelled`: delimiters that are not marked and what lies around them can be found
  again in the text before backslashes were put in;
* `EscapesBy.unique`: the text and the result settle where backslashes were put in.
-/

namespace LiteralMarkdown

namespace Glyph

/-! ## What the shown reading shares with the plain one -/

theorem mem_shown {gs : List Glyph} {a : Char} (ha : a ≠ escapeMarker) :
    a ∈ shown gs ↔ a ∈ plain gs := by
  induction gs with
  | nil => rfl
  | cons g gs ih =>
    rw [shown_cons, plain_cons, List.mem_append, List.mem_cons, ih]
    cases g.escaped <;> simp [ha]

theorem shown_eq_nil_iff {gs : List Glyph} : shown gs = [] ↔ plain gs = [] := by
  cases gs with
  | nil => rfl
  | cons g gs =>
    rw [shown_cons, plain_cons]
    cases g.escaped <;> simp

theorem shown_concat (gs : List Glyph) (g : Glyph) (hg : g.escaped = false) :
    shown (gs ++ [g]) = shown gs ++ [g.char] := by
  rw [shown_append, shown_cons, hg]
  rfl

/-! ## Parts of the plain reading -/

/-- A run of one character that is not marked. -/
theorem eq_replicate_of_plain {gs : List Glyph} {d : Char} {n : Nat}
    (h : plain gs = List.replicate n d) (hgs : ∀ g ∈ gs, g.escaped = false) :
    gs = List.replicate n ⟨d, false⟩ := by
  rw [List.eq_replicate_iff]
  refine ⟨by rw [← length_plain, h, List.length_replicate], fun g hg => ?_⟩
  have hmem : g.char ∈ plain gs := List.mem_map_of_mem hg
  rw [h] at hmem
  rw [← List.eq_of_mem_replicate hmem, ← hgs g hg]

theorem exists_split_of_plain {gs : List Glyph} {before behind : List Char}
    (h : plain gs = before ++ behind) :
    ∃ gs₁ gs₂, gs = gs₁ ++ gs₂ ∧ plain gs₁ = before ∧ plain gs₂ = behind :=
  List.map_eq_append_iff.1 h

/-- Two runs of a character, and what lies between and behind them, are found again in a marked
text. -/
theorem exists_parts_of_plain {gs : List Glyph} {d : Char} {n k : Nat} {body behind : List Char}
    (h : plain gs = List.replicate n d ++ (body ++ (List.replicate k d ++ behind))) :
    ∃ first gs₁ second gs₂, gs = first ++ (gs₁ ++ (second ++ gs₂)) ∧
      plain first = List.replicate n d ∧ plain gs₁ = body ∧
      plain second = List.replicate k d ∧ plain gs₂ = behind := by
  rcases exists_split_of_plain h with ⟨first, rest, rfl, hfirst, hrest⟩
  rcases exists_split_of_plain hrest with ⟨gs₁, rest, rfl, hbody, hrest⟩
  rcases exists_split_of_plain hrest with ⟨second, gs₂, rfl, hsecond, hbehind⟩
  exact ⟨first, gs₁, second, gs₂, rfl, hfirst, hbody, hsecond, hbehind⟩

/-- The runs are not marked if the character is never marked. -/
theorem exists_unmarked_parts_of_plain {gs : List Glyph} {d : Char} {n k : Nat}
    {body behind : List Char} (hgs : ∀ g ∈ gs, g.escaped = true → g.char ≠ d)
    (h : plain gs = List.replicate n d ++ (body ++ (List.replicate k d ++ behind))) :
    ∃ gs₁ gs₂, gs = List.replicate n ⟨d, false⟩ ++ (gs₁ ++ (List.replicate k ⟨d, false⟩ ++ gs₂)) ∧
      plain gs₁ = body ∧ plain gs₂ = behind := by
  rcases exists_parts_of_plain h with
    ⟨first, gs₁, second, gs₂, rfl, hfirst, hbody, hsecond, hbehind⟩
  have hrun {m : Nat} {run : List Glyph} (hmem : ∀ g ∈ run, g ∈ first ++ (gs₁ ++ (second ++ gs₂)))
      (hplain : plain run = List.replicate m d) : run = List.replicate m ⟨d, false⟩ := by
    refine eq_replicate_of_plain hplain fun g hg => ?_
    have hchar : g.char ∈ plain run := List.mem_map_of_mem hg
    rw [hplain] at hchar
    by_contra he
    exact hgs g (hmem g hg) (by simpa using he) (List.eq_of_mem_replicate hchar)
  obtain rfl := hrun (fun g hg => by simp [hg]) hfirst
  obtain rfl := hrun (fun g hg => by simp [hg]) hsecond
  exact ⟨gs₁, gs₂, rfl, hbody, hbehind⟩

/-! ## The shown reading with its marks -/

/-- The shown reading of a marked text, with the marks kept: the backslashes that were put in are
characters of their own. -/
def spelled (gs : List Glyph) : List Glyph := carry gs gs

theorem spelled_cons (g : Glyph) (gs : List Glyph) : spelled (g :: gs) =
    (if g.escaped then [⟨escapeMarker, false⟩, g] else [g]) ++ spelled gs := carry_cons ..

theorem plain_spelled (gs : List Glyph) : plain (spelled gs) = shown gs :=
  plain_carry (sameText_iff.2 rfl)

theorem mem_spelled {gs : List Glyph} {g : Glyph} (hg : g ∈ spelled gs) :
    g ∈ gs ∨ g = ⟨escapeMarker, false⟩ := by
  induction gs with
  | nil => cases hg
  | cons f gs ih =>
    rw [spelled_cons] at hg
    rcases List.mem_append.1 hg with hg | hg
    · cases hf : f.escaped <;> simp [hf] at hg
      · exact Or.inl (hg ▸ List.mem_cons_self)
      · rcases hg with rfl | rfl
        · exact Or.inr rfl
        · exact Or.inl List.mem_cons_self
    · rcases ih hg with hg | hg
      · exact Or.inl (List.mem_cons_of_mem f hg)
      · exact Or.inr hg

/-- Before a marked character stands the backslash that was put in for it. -/
theorem getLast?_of_spelled {gs before behind : List Glyph} {g : Glyph}
    (h : spelled gs = before ++ g :: behind) (hg : g.escaped = true) :
    before.getLast? = some ⟨escapeMarker, false⟩ := by
  induction gs generalizing before with
  | nil =>
    have : before ++ g :: behind = [] := h.symm
    simp at this
  | cons f gs ih =>
    rw [spelled_cons] at h
    cases hf : f.escaped with
    | true =>
      rw [hf, if_pos rfl] at h
      match before with
      | [] =>
        rw [← (List.cons.inj h).1] at hg
        cases hg
      | [a] =>
        rw [← (List.cons.inj h).1]
        rfl
      | a :: b :: before =>
        rw [List.getLast?_cons_cons, List.getLast?_cons]
        have hrest := ih (List.cons.inj (List.cons.inj h).2).2
        rw [hrest]
        rfl
    | false =>
      rw [hf, if_neg Bool.false_ne_true] at h
      cases before with
      | nil =>
        rw [← (List.cons.inj h).1, hf] at hg
        cases hg
      | cons a before =>
        rw [List.getLast?_cons, ih (List.cons.inj h).2]
        rfl

/-- The shown reading can be split before each character that is not marked. -/
theorem exists_split_of_spelled {gs before behind : List Glyph}
    (h : spelled gs = before ++ behind) (hhead : ∀ g ∈ behind.head?, g.escaped = false) :
    ∃ gs₁ gs₂, gs = gs₁ ++ gs₂ ∧ spelled gs₁ = before ∧ spelled gs₂ = behind := by
  induction gs generalizing before with
  | nil =>
    rcases List.append_eq_nil_iff.1 h.symm with ⟨rfl, rfl⟩
    exact ⟨[], [], rfl, rfl, rfl⟩
  | cons f gs ih =>
    cases before with
    | nil => exact ⟨[], f :: gs, rfl, rfl, h⟩
    | cons a before =>
      have hcons := h
      rw [spelled_cons] at hcons
      cases hf : f.escaped with
      | true =>
        rw [hf, if_pos rfl] at hcons
        rcases List.cons.inj hcons with ⟨ha, htail⟩
        cases before with
        | nil =>
          -- The split would part a backslash from the character that it was put in for.
          have hbehind : f :: spelled gs = behind := htail
          have hmark := hhead f (by rw [← hbehind]; rfl)
          rw [hf] at hmark
          cases hmark
        | cons b before =>
          rcases List.cons.inj htail with ⟨hb, hrest⟩
          rcases ih hrest with ⟨gs₁, gs₂, rfl, rfl, hbehind⟩
          refine ⟨f :: gs₁, gs₂, rfl, ?_, hbehind⟩
          rw [spelled_cons, hf, if_pos rfl, ha, hb]
          rfl
      | false =>
        rw [hf, if_neg Bool.false_ne_true] at hcons
        rcases List.cons.inj hcons with ⟨rfl, hrest⟩
        rcases ih hrest with ⟨gs₁, gs₂, rfl, rfl, hbehind⟩
        exact ⟨f :: gs₁, gs₂, rfl, by simp [spelled_cons, hf], hbehind⟩

/-- Characters with which the shown reading begins are those with which the text begins, if they are
not marked and are no backslashes. -/
theorem exists_eq_append_of_spelled {gs front behind : List Glyph}
    (h : spelled gs = front ++ behind)
    (hfront : ∀ g ∈ front, g.escaped = false ∧ g.char ≠ escapeMarker) :
    ∃ rest, gs = front ++ rest ∧ spelled rest = behind := by
  induction front generalizing gs with
  | nil => exact ⟨gs, rfl, h⟩
  | cons a front ih =>
    cases gs with
    | nil => cases h
    | cons f gs =>
      rw [spelled_cons] at h
      rcases hfront a List.mem_cons_self with ⟨-, hchar⟩
      cases hf : f.escaped with
      | true =>
        rw [hf, if_pos rfl] at h
        rw [← (List.cons.inj h).1] at hchar
        exact absurd rfl hchar
      | false =>
        rw [hf, if_neg Bool.false_ne_true] at h
        rcases List.cons.inj h with ⟨rfl, hrest⟩
        rcases ih hrest fun g hg => hfront g (List.mem_cons_of_mem f hg) with ⟨rest, hgs, hbehind⟩
        exact ⟨rest, by rw [hgs, List.cons_append], hbehind⟩

/-- Two runs of delimiters that are not marked, and what lies before, between and behind them, are
found again in the text before backslashes were put in. -/
theorem exists_parts_of_spelled {gs before body behind : List Glyph} {d : Char} {n k : Nat}
    (hd : d ≠ escapeMarker)
    (h : spelled gs = before ++
      (List.replicate n ⟨d, false⟩ ++ (body ++ (List.replicate k ⟨d, false⟩ ++ behind))))
    (hn : 0 < n) (hcut : 0 < k ∨ (plain body).getLast? ≠ some escapeMarker) :
    ∃ gs₁ gs₂ gs₃, gs = gs₁ ++
      (List.replicate n ⟨d, false⟩ ++ (gs₂ ++ (List.replicate k ⟨d, false⟩ ++ gs₃))) ∧
      spelled gs₁ = before ∧ spelled gs₂ = body ∧ spelled gs₃ = behind := by
  have hrun (m : Nat) : ∀ g ∈ List.replicate m (⟨d, false⟩ : Glyph),
      g.escaped = false ∧ g.char ≠ escapeMarker := by
    intro g hg
    rw [List.eq_of_mem_replicate hg]
    exact ⟨rfl, hd⟩
  have hhead (m : Nat) (hm : 0 < m) (rest : List Glyph) :
      ∀ g ∈ (List.replicate m (⟨d, false⟩ : Glyph) ++ rest).head?, g.escaped = false := by
    rcases Nat.exists_eq_add_one.2 hm with ⟨j, rfl⟩
    intro g hg
    rw [← Option.some.inj hg]
  rcases exists_split_of_spelled h (hhead n hn _) with ⟨gs₁, rest, rfl, hbefore, hrest⟩
  rcases exists_eq_append_of_spelled hrest (hrun n) with ⟨rest, rfl, hrest'⟩
  have hmiddle : ∀ g ∈ (List.replicate k (⟨d, false⟩ : Glyph) ++ behind).head?,
      g.escaped = false := by
    rcases hcut with hk | hlast
    · exact hhead k hk behind
    · -- A marked character would stand behind a backslash.
      intro g hg
      by_contra he
      rcases List.head?_eq_some_iff.1 hg with ⟨tail, htail⟩
      rw [htail] at hrest'
      have hbackslash := getLast?_of_spelled hrest' (by simpa using he)
      apply hlast
      rw [plain, List.getLast?_map, hbackslash]
      rfl
  rcases exists_split_of_spelled hrest' hmiddle with ⟨gs₂, rest, rfl, hbody, hrest⟩
  rcases exists_eq_append_of_spelled hrest (hrun k) with ⟨gs₃, rfl, hbehind⟩
  exact ⟨gs₁, gs₂, gs₃, rfl, hbefore, hbody, hbehind⟩

end Glyph

/-! ## Backslashes that lead from one text to another -/

open Glyph

/-- The marked characters are the ones before which backslashes have been put into the first text
to make the second, all of them from the list. -/
structure EscapesBy (escapable : List Char) (gs : List Glyph) (text result : List Char) : Prop where
  plain_eq : plain gs = text
  shown_eq : shown gs = result
  char_mem : ∀ g ∈ gs, g.escaped = true → g.char ∈ escapable

/-- The two texts settle where backslashes have been put in, if none of them stands before another
backslash. -/
theorem EscapesBy.unique {escapable text result : List Char} {gs hs : List Glyph}
    (hmarker : escapeMarker ∉ escapable) (h : EscapesBy escapable gs text result)
    (h' : EscapesBy escapable hs text result) : gs = hs := by
  have hsame : SameText gs hs := sameText_iff.2 (h.plain_eq.trans h'.plain_eq.symm)
  have hshown : shown hs = shown gs := h'.shown_eq.trans h.shown_eq.symm
  have hgs := h.char_mem
  have hhs := h'.char_mem
  clear h h'
  induction hsame with
  | nil => rfl
  | @cons g k gs hs hk _ ih =>
    have hsame : g.escaped = k.escaped := by
      have hheads := congrArg List.head? hshown
      rw [shown_cons, shown_cons] at hheads
      -- The first characters tell whether a backslash was put in, for none is marked itself.
      cases hg : g.escaped with
      | true =>
        have hchar : g.char ≠ escapeMarker := fun heq =>
          hmarker (heq ▸ hgs g List.mem_cons_self hg)
        cases he : k.escaped with
        | true => rfl
        | false =>
          have hmarked : k.char = escapeMarker := by simpa [hg, he] using hheads
          exact absurd (hk.trans hmarked) hchar
      | false =>
        cases he : k.escaped with
        | false => rfl
        | true =>
          have hchar : k.char ≠ escapeMarker := fun heq =>
            hmarker (heq ▸ hhs k List.mem_cons_self he)
          have hmarked : escapeMarker = g.char := by simpa [hg, he] using hheads
          exact absurd (hk.symm.trans hmarked.symm) hchar
    have hglyph : g = k := by
      cases g
      cases k
      simp_all
    subst hglyph
    rw [shown_cons, shown_cons] at hshown
    rw [ih (List.append_cancel_left hshown) (fun f hf => hgs f (List.mem_cons_of_mem g hf))
      fun f hf => hhs f (List.mem_cons_of_mem g hf)]

end LiteralMarkdown
