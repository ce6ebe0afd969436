import LiteralMarkdown.Proofs.Delimiters
import LiteralMarkdown.Proofs.Layers
import LiteralMarkdown.Proofs.Segments

/-!
# Escaping inserts backslashes

Escaping puts single backslashes before delimiters and changes nothing else. The rules go for
different characters, apart from the two rules for underscores; these get along because an
underscore that the first one escapes is never followed by another one, while the second one only
escapes underscores that stand next to each other.

* `exists_strongMarks`: the two rules for underscores mark different ones;
* `escapes_escapeAllDelimiters`: the rules, one after the other, escape a character at most once;
* `escapeCommon_eq_escapedAt`: so does escaping outside protected HTML, and it escapes nothing in
  there.
-/

namespace LiteralMarkdown

open Glyph

/-! ## Places of marks -/

/-- A member of two lists put together stands in the first or in the second. -/
theorem split_append {α : Type} {as bs before behind : List α} {g : α}
    (h : as ++ bs = before ++ g :: behind) :
    (∃ rest, as = before ++ g :: rest ∧ behind = rest ++ bs) ∨
      ∃ front, bs = front ++ g :: behind ∧ before = as ++ front := by
  rcases List.append_eq_append_iff.1 h with ⟨front, hbefore, hbs⟩ | ⟨rest, has, hrest⟩
  · exact Or.inr ⟨front, hbs, hbefore⟩
  · cases rest with
    | nil =>
      -- The first list ends before the member, which begins the second one.
      refine Or.inr ⟨[], by simpa using hrest.symm, ?_⟩
      simpa using has.symm
    | cons a rest =>
      rw [List.cons_append, List.cons.injEq] at hrest
      rcases hrest with ⟨rfl, hrest⟩
      exact Or.inl ⟨rest, has, hrest⟩

/-- A member of many lists put together stands in one of them. -/
theorem split_flatMap {α β : Type} (f : α → List β) {as : List α} {before behind : List β} {g : β}
    (h : as.flatMap f = before ++ g :: behind) :
    ∃ front a rest inner outer, as = front ++ a :: rest ∧ f a = inner ++ g :: outer ∧
      before = front.flatMap f ++ inner ∧ behind = outer ++ rest.flatMap f := by
  induction as generalizing before with
  | nil => simp at h
  | cons a as ih =>
    rw [List.flatMap_cons] at h
    rcases split_append h with ⟨outer, ha, hbehind⟩ | ⟨tail, has, hbefore⟩
    · exact ⟨[], a, as, before, outer, rfl, ha, rfl, hbehind⟩
    · rcases ih has with ⟨front, a', rest, inner, outer, rfl, ha', rfl, hbehind⟩
      refine ⟨a :: front, a', rest, inner, outer, rfl, ha', ?_, hbehind⟩
      rw [hbefore, List.flatMap_cons, List.append_assoc]

theorem split_replicate {α : Type} {n : Nat} {a g : α} {before behind : List α}
    (h : List.replicate n a = before ++ g :: behind) :
    g = a ∧ ∃ i j, i + j + 1 = n ∧ before = List.replicate i a ∧ behind = List.replicate j a := by
  rcases List.replicate_eq_append_iff.1 h with ⟨hlen, hbefore, hrest⟩
  rw [List.length_cons, List.replicate_succ, List.cons.injEq] at hrest
  rw [List.length_cons] at hlen
  exact ⟨hrest.1, before.length, behind.length, by omega, hbefore, hrest.2⟩

namespace Match.Encloses

/-- A marked character of a match stands in one of its two runs. -/
theorem split_marks {m : Match} {arity : Arity} {d : Char} {n k : Nat} {body : List Char}
    (h : m.Encloses arity d n k body) {before behind : List Glyph} {g : Glyph}
    (hmarks : m.marks arity = before ++ g :: behind) (he : g.escaped = true) :
    (∃ i j, i + j + 1 = n ∧ before = List.replicate i ⟨d, true⟩ ∧
      behind = List.replicate j ⟨d, true⟩ ++ (ofText false body ++ List.replicate k ⟨d, true⟩)) ∨
    ∃ front i j, i + j + 1 = k ∧ before = front ++ List.replicate i ⟨d, true⟩ ∧
      behind = List.replicate j ⟨d, true⟩ := by
  rw [h.marks_eq] at hmarks
  rcases split_append hmarks with ⟨rest, hrun, hbehind⟩ | ⟨front, hmarks, hbefore⟩
  · rcases split_replicate hrun with ⟨-, i, j, hij, hi, rfl⟩
    exact Or.inl ⟨i, j, hij, hi, hbehind⟩
  · rcases split_append hmarks with ⟨rest, hbody, -⟩ | ⟨inner, hrun, hfront⟩
    · have hg : g ∈ ofText false body := by simp [hbody]
      rw [(mem_ofText.1 hg).2] at he
      cases he
    · rcases split_replicate hrun with ⟨-, i, j, hij, rfl, hj⟩
      refine Or.inr ⟨List.replicate n ⟨d, true⟩ ++ ofText false body, i, j, hij, ?_, hj⟩
      rw [hbefore, hfront, List.append_assoc]

end Match.Encloses

/-- A mark of a rule stands in a match that its scan has found. -/
theorem EscapeRule.split_marks {rule : EscapeRule} {text : List Char} {before behind : List Glyph}
    {g : Glyph} (h : rule.marks text = before ++ g :: behind) (he : g.escaped = true) :
    ∃ front m rest inner outer, rule.pattern.scan text = front ++ .found m :: rest ∧
      m.marks rule.arity = inner ++ g :: outer ∧
      before = front.flatMap (Piece.marks rule.arity) ++ inner ∧
      behind = outer ++ rest.flatMap (Piece.marks rule.arity) := by
  rcases split_flatMap _ h with ⟨front, piece, rest, inner, outer, hscan, hmarks, hbefore, hbehind⟩
  cases piece with
  | skipped c =>
    have hg : g ∈ Piece.marks rule.arity (.skipped c) := by simp [hmarks]
    have : g = ⟨c, false⟩ := by simpa [Piece.marks] using hg
    simp [this] at he
  | found m => exact ⟨front, m, rest, inner, outer, hscan, hmarks, hbefore, hbehind⟩

/-! ## The two rules for underscores -/

open EscapeRule

/-- No underscore follows one that the rule for single underscores escapes. -/
theorem head?_ne_of_underscoreEmphasis {text : List Char} {before behind : List Glyph} {g : Glyph}
    (h : underscoreEmphasis.marks text = before ++ g :: behind) (he : g.escaped = true) :
    (plain behind).head? ≠ some '_' := by
  rcases EscapeRule.split_marks h he with ⟨front, m, rest, inner, outer, hscan, hmarks, -, rfl⟩
  rcases Pattern.exists_mem_ends_of_scan hscan with ⟨c, e, hc, hmem, rfl, hrest⟩
  rcases exists_encloses_underscoreEmphasis hc hmem with ⟨body, hne, hnone, hencloses, hword⟩
  have hplain : plain (rest.flatMap (Piece.marks .surrounding)) = e.rest := by
    rw [hrest]
    refine Piece.plain_marks fun m hm => ?_
    have hfound : .found m ∈ underscoreEmphasis.pattern.scan text := by
      rw [hscan]
      exact List.mem_append_right _ (List.mem_cons_of_mem _ hm)
    exact delimits_underscoreEmphasis.framed hfound
  rcases hencloses.split_marks hmarks he with ⟨i, j, hij, -, rfl⟩ | ⟨_, i, j, hij, -, rfl⟩
  · -- It opens the match: the body follows, which holds no underscore.
    rcases List.exists_cons_of_ne_nil hne with ⟨a, body, rfl⟩
    have hj : j = 0 := by omega
    subst hj
    have ha : a ≠ '_' := fun ha => hnone (ha ▸ List.mem_cons_self)
    simp [ha]
  · -- It closes the match: what follows is no word character.
    have hj : j = 0 := by omega
    subst hj
    have hbehind : plain (List.replicate 0 ⟨'_', true⟩ ++
        rest.flatMap (Piece.marks underscoreEmphasis.arity)) = e.rest := hplain
    rw [hbehind]
    intro hhead
    rw [hhead] at hword
    exact absurd hword (by decide)

/-- An underscore stands next to each one that the rule for two or more underscores escapes. -/
theorem neighbour_of_underscoreStrong {text : List Char} {before behind : List Glyph} {g : Glyph}
    (h : underscoreStrong.marks text = before ++ g :: behind) (he : g.escaped = true) :
    (plain before).getLast? = some '_' ∨ (plain behind).head? = some '_' := by
  rcases EscapeRule.split_marks h he with ⟨front, m, rest, inner, outer, hscan, hmarks, rfl, rfl⟩
  rcases Pattern.exists_mem_ends_of_scan hscan with ⟨c, e, hc, hmem, rfl, -⟩
  obtain ⟨n, body, hn, -, hencloses⟩ :=
    exists_encloses_paired (Pattern.accepts_chars _).oneOrMore hc hmem
  -- The run has another member on one of the two sides.
  rcases hencloses.split_marks hmarks he with ⟨i, j, hij, rfl, rfl⟩ | ⟨_, i, j, hij, rfl, rfl⟩
  all_goals
    rcases Nat.eq_zero_or_pos i with rfl | hi
    · have hj : 0 < j := by omega
      rcases Nat.exists_eq_add_one.2 hj with ⟨j, rfl⟩
      right
      simp [List.replicate_succ]
    · rcases Nat.exists_eq_add_one.2 hi with ⟨i, rfl⟩
      left
      simp [plain, List.replicate_succ', ← List.append_assoc]

/-- What the shown reading of a marked text begins with is a backslash or what the text begins
with. -/
theorem Glyph.head?_shown (gs : List Glyph) :
    (shown gs).head? = some escapeMarker ∨ (shown gs).head? = (plain gs).head? := by
  cases gs with
  | nil => exact Or.inr rfl
  | cons g gs =>
    rw [shown_cons]
    cases g.escaped with
    | true => exact Or.inl rfl
    | false => exact Or.inr rfl

/-- Where the rule for single underscores has put in a backslash, the rule for two or more does not
mark the underscore behind it. -/
theorem unmarked_of_underscoreEmphasis {text : List Char}
    {before behind before' behind' : List Glyph} {g a b : Glyph}
    (h : underscoreEmphasis.marks text = before ++ g :: behind) (he : g.escaped = true)
    (h' : underscoreStrong.marks (escapeDelimiters underscoreEmphasis text) =
      before' ++ a :: b :: behind')
    (ha : a.char = escapeMarker) (hbehind : plain behind' = shown behind) : b.escaped = false := by
  by_contra hne
  have hsplit : underscoreStrong.marks (escapeDelimiters underscoreEmphasis text) =
      (before' ++ [a]) ++ b :: behind' := by rw [h', List.append_assoc]; rfl
  rcases neighbour_of_underscoreStrong hsplit (by simpa using hne) with hlast | hhead
  · -- Before it stands the backslash that the first rule has put in.
    have hchar : a.char = '_' := by simpa [plain] using hlast
    rw [ha] at hchar
    exact absurd hchar (by decide)
  · -- Behind it stands a backslash, or what followed it before.
    rw [hbehind] at hhead
    rcases Glyph.head?_shown behind with hshown | hshown
    · rw [hshown] at hhead
      exact absurd hhead (by decide)
    · rw [hshown] at hhead
      exact head?_ne_of_underscoreEmphasis h he hhead

/-- What the second rule for underscores marks in a text that has the backslashes of the first
one. -/
structure StrongMarks (text : List Char) (strong : List Glyph) : Prop where
  apart : Apart (underscoreEmphasis.marks text) strong
  marks_eq : underscoreStrong.marks (escapeDelimiters underscoreEmphasis text) =
    carry (underscoreEmphasis.marks text) strong

/-- Behind a backslash that the first rule for underscores has put in, the second one marks
nothing. -/
theorem exists_strongMarks (text : List Char) : ∃ strong, StrongMarks text strong := by
  have hplain := delimits_underscoreStrong.plain_marks (escapeDelimiters underscoreEmphasis text)
  rw [← underscoreEmphasis.shown_marks] at hplain
  have hmarker : ∀ k ∈ underscoreStrong.marks (shown (underscoreEmphasis.marks text)),
      k.escaped = true → k.char ≠ escapeMarker := by
    intro k hk he
    rw [delimits_underscoreStrong.char_eq hk he]
    decide
  rcases exists_eq_carry hplain hmarker with ⟨strong, hsame, hcarry⟩
  rw [underscoreEmphasis.shown_marks] at hcarry
  refine ⟨strong, apart_of_split hsame ?_, hcarry⟩
  intro before g behind before' k behind' hemphasis hstrong hbefore hbehind he
  have hsplit : carry (underscoreEmphasis.marks text) strong =
      carry before before' ++ ⟨escapeMarker, false⟩ :: k :: carry behind behind' := by
    rw [hemphasis, hstrong, carry_append hbefore, carry_cons, he]
    rfl
  exact unmarked_of_underscoreEmphasis hemphasis he (hcarry.trans hsplit) rfl (plain_carry hbehind)

namespace StrongMarks

variable {text : List Char} {strong : List Glyph}

theorem char_eq (h : StrongMarks text strong) :
    ∀ k ∈ strong, k.escaped = true → k.char = '_' := by
  intro k hk he
  have hmem : k ∈ underscoreStrong.marks (escapeDelimiters underscoreEmphasis text) :=
    h.marks_eq ▸ mem_carry h.apart.sameText hk
  exact delimits_underscoreStrong.char_eq hmem he

theorem plain_eq (h : StrongMarks text strong) : plain strong = text :=
  h.apart.sameText.plain_eq.symm.trans (delimits_underscoreEmphasis.plain_marks text)

/-- The marks of both rules. -/
theorem shown_merge (h : StrongMarks text strong) :
    shown (merge (underscoreEmphasis.marks text) strong) =
      escapeDelimiters underscoreStrong (escapeDelimiters underscoreEmphasis text) := by
  rw [Glyph.shown_merge h.apart, ← h.marks_eq, underscoreStrong.shown_marks]

theorem char_merge (h : StrongMarks text strong) :
    ∀ g ∈ merge (underscoreEmphasis.marks text) strong, g.escaped = true → g.char = '_' := by
  intro g hg he
  rcases exists_of_mem_merge h.apart.sameText hg he with hg | hg
  · exact delimits_underscoreEmphasis.char_eq hg he
  · exact h.char_eq g hg he

end StrongMarks

/-- The rules for underscores, one after the other, escape an underscore at most once. -/
theorem escapes_underscores (text : List Char) :
    Escapes ['_'] text
      (escapeDelimiters underscoreStrong (escapeDelimiters underscoreEmphasis text)) := by
  rcases exists_strongMarks text with ⟨strong, h⟩
  have hplain := plain_merge h.apart.sameText
  rw [delimits_underscoreEmphasis.plain_marks] at hplain
  exact ⟨merge (underscoreEmphasis.marks text) strong, hplain, h.shown_merge, fun g hg he =>
    List.mem_singleton.2 (h.char_merge g hg he)⟩

/-! ## All rules -/

/-- The characters that the rules escape. -/
def entityChars : List Char := ['*', '_', '~', '\x60', '[']

/-- The rules, one after the other, escape a character at most once. -/
theorem escapes_escapeAllDelimiters (text : List Char) :
    Escapes entityChars text (escapeAllDelimiters text) := by
  have hsteps : escapeAllDelimiters text =
      escapeDelimiters bracketLink (escapeDelimiters backtickCode
        (escapeDelimiters tildeStrikethrough (escapeDelimiters underscoreStrong
          (escapeDelimiters underscoreEmphasis (escapeDelimiters asteriskEmphasis text))))) := by
    simp only [escapeAllDelimiters, EscapeRule.all, List.foldl_cons, List.foldl_nil]
  have hchars : entityChars = ['*'] ++ ['_'] ++ ['~'] ++ ['\x60'] ++ ['['] := rfl
  rw [hsteps, hchars]
  have hasterisk := delimits_asteriskEmphasis.escapes text
  have hunderscores := hasterisk.trans (escapes_underscores _) (by simp) (by decide)
  have htilde := hunderscores.trans (delimits_tildeStrikethrough.escapes _) (by simp) (by decide)
  have hbacktick := htilde.trans (delimits_backtickCode.escapes _) (by simp) (by decide)
  exact hbacktick.trans (delimits_bracketLink.escapes _) (by simp) (by decide)

theorem escapeAllDelimiters_nil : escapeAllDelimiters [] = [] :=
  (escapes_escapeAllDelimiters []).eq_nil

/-! ## Outside protected HTML -/

/-- Escaping outside protected HTML marks segment by segment, and nothing in a match. -/
theorem exists_marks_escapeCommon (text : List Char) :
    ∃ mark : Segment → List Glyph,
      escapeCommon text = shown ((splitSegments Protection.pattern text).flatMap mark) ∧
      (∀ s, plain (mark s) = s.text) ∧
      (∀ s, ∀ g ∈ mark s, g.escaped = true → g.char ∈ entityChars ∧ s.isMatch = false) := by
  choose marks hplain hshown hchars using escapes_escapeAllDelimiters
  refine ⟨fun s => if s.isMatch then ofText false s.text else marks s.text, ?_, fun s => ?_, ?_⟩
  · rw [escapeCommon, replaceWhen_eq_flatMap _ escapeAllDelimiters_nil, shown_flatMap]
    refine List.flatMap_congr fun s _ => ?_
    cases s.isMatch <;> simp [hshown]
  · dsimp only
    split <;> simp [hplain]
  · intro s g hg he
    cases h : s.isMatch with
    | true =>
      -- A match is taken over without any mark.
      simp only [h, if_true] at hg
      rw [(mem_ofText.1 hg).2] at he
      cases he
    | false =>
      simp only [h, Bool.false_eq_true, if_false] at hg
      exact ⟨hchars _ g hg he, rfl⟩

/-- The marks of a segment stand where the segment stands. -/
theorem Segment.Tiles.getElem?_flatMap {text : List Char} {segments : List Segment}
    (htiles : Tiles 0 text segments) {mark : Segment → List Glyph}
    (hmark : ∀ s, plain (mark s) = s.text) {s : Segment} (hs : s ∈ segments) {i : Nat}
    (hlow : s.index ≤ i) (hhigh : i < s.index + s.text.length) :
    (segments.flatMap mark)[i]? = (mark s)[i - s.index]? := by
  rcases List.append_of_mem hs with ⟨before, behind, rfl⟩
  have hindex : s.index = (before.flatMap mark).length := by
    rw [htiles.index_eq, ← length_plain, plain_flatMap, List.flatMap_congr fun s _ => hmark s,
      Nat.zero_add]
  have hlen : (mark s).length = s.text.length := by rw [← length_plain, hmark]
  rw [List.flatMap_append, List.flatMap_cons, List.getElem?_append_right (by omega),
    List.getElem?_append_left (by omega), hindex]

/-- Escaping outside protected HTML puts single backslashes before entity characters, none of them
inside protected HTML, and changes nothing else. -/
theorem escapeCommon_eq_escapedAt (text : List Char) :
    ∃ positions : Finset Nat,
      escapeCommon text = escapedAt positions text ∧
      (∀ i ∈ positions, ∃ c ∈ entityChars, text[i]? = some c) ∧
      (∀ i ∈ positions, ∀ s ∈ splitSegments Protection.pattern text, s.isMatch = true →
        i < s.index ∨ s.index + s.text.length ≤ i) ∧
      (escapeMarker ∉ text → (escapeCommon text).filter (· ≠ escapeMarker) = text) := by
  rcases exists_marks_escapeCommon text with ⟨mark, hresult, hplain, hmark⟩
  have htiles := tiles_splitSegments Protection.pattern text
  have hgs : plain ((splitSegments Protection.pattern text).flatMap mark) = text := by
    rw [plain_flatMap, List.flatMap_congr fun s _ => hplain s]
    exact htiles.flatMap_text
  refine ⟨positions ((splitSegments Protection.pattern text).flatMap mark), ?_, ?_, ?_, ?_⟩
  · rw [hresult, shown_eq_escapedAt, hgs]
  · intro i hi
    rcases mem_positions.1 hi with ⟨g, hg, he⟩
    rcases List.mem_flatMap.1 (List.mem_of_getElem? hg) with ⟨s, -, hs⟩
    have hchar : text[i]? = some g.char := by
      rw [← hgs, plain, List.getElem?_map, hg]
      rfl
    exact ⟨g.char, (hmark s g hs he).1, hchar⟩
  · intro i hi s hs hmatch
    rcases mem_positions.1 hi with ⟨g, hg, he⟩
    -- A mark inside the segment would be a mark of the segment, and a match has none.
    by_contra hin
    rw [htiles.getElem?_flatMap hplain hs (by omega) (by omega)] at hg
    have := (hmark s g (List.mem_of_getElem? hg) he).2
    rw [hmatch] at this
    cases this
  · intro hnone
    rw [hresult, filter_shown, hgs]
    refine List.filter_eq_self.2 fun c hc => ?_
    simpa using fun h : c = escapeMarker => hnone (h ▸ hc)

end LiteralMarkdown
