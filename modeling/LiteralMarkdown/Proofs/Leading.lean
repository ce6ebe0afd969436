import LiteralMarkdown.Escape
import LiteralMarkdown.Proofs.Pattern.Language
import LiteralMarkdown.Proofs.Pattern.Run

/-!
# The leading marker

What escaping the block marker that opens a text makes of it: nothing, or the text without the
blanks before the marker and with a backslash instead.

* `escapeLeading_of_hasMarker`: a marker takes with it as many blanks as can stand before one;
* `escapeLeading_cases`: what becomes of a text;
* `escapeLeading_eq_iff`: a text stays as it is just if no marker opens it.
-/

namespace LiteralMarkdown

open Pattern Cursor

/-- What opens a block. -/
def IsMarker (x : List Char) : Prop :=
  (∃ a ∈ ['-', '#', '*', '>', '=', '|'], x = [a]) ∨ (∃ n, 4 ≤ n ∧ x = List.replicate n ' ') ∨
    ∃ n, 3 ≤ n ∧ x = List.replicate n '\x60'

/-- The markers, as the pattern for them has them. -/
def markerChoice : Pattern :=
  choice [.chars (.oneOf ['-', '#', '*', '>', '=', '|']), .atLeast 4 .greedy (.char ' '),
    .atLeast 3 .greedy (.char '\x60')]

theorem accepts_markerChoice : markerChoice.Accepts (wordsWhere IsMarker) := by
  have hchoice := (accepts_chars (.oneOf ['-', '#', '*', '>', '=', '|'])).alt
    ((accepts_atLeast_char 4 .greedy ' ').alt (accepts_atLeast_char 3 .greedy '\x60'))
  have hsign : ∀ a, (CharSet.oneOf ['-', '#', '*', '>', '=', '|']).has a = true ↔
      a ∈ ['-', '#', '*', '>', '=', '|'] := by
    intro a
    simp [CharSet.oneOf, CharSet.has, CharSet.Item.has]
  refine hchoice.of_iff fun x => ?_
  simp only [Language.mem_add, CharSet.mem_words, mem_wordsWhere, hsign, IsMarker]

/-- The characters that a marker can hold. -/
theorem IsMarker.mem_chars {x : List Char} (h : IsMarker x) {a : Char} (ha : a ∈ x) :
    a ∈ ['-', '#', '*', '>', '=', '|', ' ', '\x60'] := by
  rcases h with ⟨b, hb, rfl⟩ | ⟨n, -, rfl⟩ | ⟨n, -, rfl⟩
  · rw [List.mem_singleton.1 ha]
    exact List.mem_append_left [' ', '\x60'] hb
  · rw [List.eq_of_mem_replicate ha]
    decide
  · rw [List.eq_of_mem_replicate ha]
    decide

/-- No marker holds an opening bracket. -/
theorem IsMarker.not_mem {x : List Char} (h : IsMarker x) : '<' ∉ x :=
  fun hmem => absurd (h.mem_chars hmem) (by decide)

theorem IsMarker.ne_nil {x : List Char} (h : IsMarker x) : x ≠ [] := by
  rintro rfl
  rcases h with ⟨a, -, h⟩ | ⟨n, hn, h⟩ | ⟨n, hn, h⟩
  · cases h
  · have hlen := congrArg List.length h
    rw [List.length_replicate, List.length_nil] at hlen
    omega
  · have hlen := congrArg List.length h
    rw [List.length_replicate, List.length_nil] at hlen
    omega

/-- The blanks before a marker, as the pattern has them. -/
def blankRun : Pattern := .zeroOrMore (.chars (.ofItem .blank))

theorem accepts_blankRun :
    blankRun.Accepts (wordsWhere fun x => ∀ a ∈ x, Text.isBlank a = true) := by
  refine (accepts_zeroOrMore_chars _).of_iff fun x => ?_
  simp [mem_wordsWhere, CharSet.ofItem, CharSet.has, CharSet.Item.has]

/-- The pattern matches at the beginning of a text only. -/
theorem mem_ends_leadingMarker {c e : Cursor} :
    e ∈ leadingMarker.ends c ↔
      c.position = 0 ∧ ∃ f ∈ blankRun.ends c, e ∈ (group (.number 1) markerChoice).ends f := by
  constructor
  · intro he
    rcases mem_ends_append.1 he with ⟨d, hd, hbehind⟩
    rcases mem_ends_start.1 hd with ⟨hstart, rfl⟩
    exact ⟨hstart, mem_ends_append.1 hbehind⟩
  · rintro ⟨hstart, hbehind⟩
    exact mem_ends_append.2 ⟨c, mem_ends_start.2 ⟨hstart, rfl⟩, mem_ends_append.2 hbehind⟩

/-- What the group keeps is the marker. -/
theorem exists_marker_of_mem_ends_group {f e : Cursor}
    (he : e ∈ (group (.number 1) markerChoice).ends f) (c : Cursor) :
    ∃ marker, IsMarker marker ∧ f.Reaches marker e ∧
      (c.matchTo e).group? (.number 1) = some marker := by
  rcases exists_reaches_of_mem_ends_group he with ⟨g, hg, hgroup⟩
  rcases accepts_markerChoice.exists_reaches hg with ⟨marker, hmarker, hend, -⟩
  rcases hgroup marker hend with ⟨hend, kept, hkept, htext⟩
  refine ⟨marker, hmarker, hend, ?_⟩
  rw [group?_matchTo, hkept, ← htext]
  rfl

/-- A match is blanks and then a marker. -/
theorem exists_marker_of_mem_ends {c e : Cursor} (he : e ∈ leadingMarker.ends c) :
    c.position = 0 ∧ ∃ blanks marker, (∀ a ∈ blanks, Text.isBlank a = true) ∧ IsMarker marker ∧
      c.Reaches (blanks ++ marker) e ∧ (c.matchTo e).group? (.number 1) = some marker := by
  rcases mem_ends_leadingMarker.1 he with ⟨hstart, f, hf, hmark⟩
  rcases accepts_blankRun.exists_reaches hf with ⟨blanks, hblanks, hreach, -⟩
  rcases exists_marker_of_mem_ends_group hmark c with ⟨marker, hmarker, hend, hgroup⟩
  exact ⟨hstart, blanks, marker, hblanks, hmarker, hreach.trans hend, hgroup⟩

/-- Where blanks and a marker open a text, the pattern matches. -/
theorem exists_mem_ends_of_marker {c : Cursor} {blanks marker : List Char}
    (hblanks : ∀ a ∈ blanks, Text.isBlank a = true) (hmarker : IsMarker marker)
    (hpre : blanks ++ marker <+: c.rest) :
    c.after blanks ∈ blankRun.ends c ∧
      ∃ e ∈ (group (.number 1) markerChoice).ends (c.after blanks),
        c.Reaches (blanks ++ marker) e := by
  rcases append_prefix_rest_iff.1 hpre with ⟨hpreblanks, hpremarker⟩
  have hg : (c.after blanks).after marker ∈ markerChoice.ends (c.after blanks) :=
    (accepts_markerChoice _ _).2 ⟨marker, hmarker, hpremarker, rfl⟩
  have hreach := (reaches_after hpremarker).keep (c.after blanks) (.number 1)
  exact ⟨(accepts_blankRun _ _).2 ⟨blanks, hblanks, hpreblanks, rfl⟩, _,
    mem_ends_group.2 ⟨_, hg, rfl⟩, (reaches_after hpreblanks).trans hreach⟩

/-- A marker takes the match further on. -/
theorem position_lt_of_marker {c e : Cursor} {blanks marker : List Char} (hmarker : IsMarker marker)
    (hreach : c.Reaches (blanks ++ marker) e) : c.position < e.position := by
  have hlen := List.length_pos_iff.2 hmarker.ne_nil
  have hposition := hreach.position
  rw [List.length_append] at hposition
  omega

/-- The preferred match passes as many blanks as any match: the run of blanks is offered in full
length first. -/
theorem exists_longest_of_onward? {c e : Cursor} (he : leadingMarker.onward? c = some e) :
    ∃ blanks marker, (∀ a ∈ blanks, Text.isBlank a = true) ∧ IsMarker marker ∧
      c.Reaches (blanks ++ marker) e ∧ (c.matchTo e).group? (.number 1) = some marker ∧
      ∀ blanks' marker', (∀ a ∈ blanks', Text.isBlank a = true) → IsMarker marker' →
        blanks' ++ marker' <+: c.rest → blanks'.length ≤ blanks.length := by
  have hstart := (mem_ends_leadingMarker.1 (mem_ends_of_onward? he)).1
  have hends : leadingMarker.ends c =
      (blankRun.ends c).flatMap (group (.number 1) markerChoice).ends := by
    have hone : Pattern.start.ends c = [c] := if_pos hstart
    show (Pattern.start.ends c).flatMap _ = _
    rw [hone, List.flatMap_singleton]
    rfl
  rw [onward?, hends] at he
  -- The runs of blanks come in the order of their lengths, and the first one with a marker behind
  -- it is taken.
  rcases exists_of_find?_flatMap_eq_some (pairwise_ends_atLeast_greedy _ 0 c) he with
    ⟨f, hf, hmark, hfirst⟩
  rcases accepts_blankRun.exists_reaches hf with ⟨blanks, hblanks, hreach, -⟩
  rcases exists_marker_of_mem_ends_group hmark c with ⟨marker, hmarker, hend, hgroup⟩
  refine ⟨blanks, marker, hblanks, hmarker, hreach.trans hend, hgroup, ?_⟩
  intro blanks' marker' hblanks' hmarker' hpre
  rcases exists_mem_ends_of_marker hblanks' hmarker' hpre with ⟨hf', e', he', hreach'⟩
  have hfurther := position_lt_of_marker hmarker' hreach'
  have hposition := hreach.position
  have hposition' : (c.after blanks').position = c.position + blanks'.length := rfl
  rcases hfirst _ hf' e' he' (decide_eq_true hfurther) with hsame | hle
  · rw [hsame] at hposition'
    omega
  · omega

/-! ## Texts that a marker opens -/

/-- Blanks and then a marker open the text. -/
def HasMarker (text : List Char) : Prop :=
  ∃ blanks marker rest, text = blanks ++ (marker ++ rest) ∧
    (∀ a ∈ blanks, Text.isBlank a = true) ∧ IsMarker marker

/-- Neither blanks nor markers hold a backslash. -/
theorem escapeMarker_not_mem_leading {blanks marker : List Char}
    (hblanks : ∀ a ∈ blanks, Text.isBlank a = true) (hmarker : IsMarker marker) :
    escapeMarker ∉ blanks ++ marker := by
  intro hmem
  rcases List.mem_append.1 hmem with hmem | hmem
  · exact absurd (hblanks _ hmem) (by decide)
  · exact absurd (hmarker.mem_chars hmem) (by decide)

theorem not_hasMarker_cons (rest : List Char) : ¬ HasMarker (escapeMarker :: rest) := by
  rintro ⟨blanks, marker, behind, htext, hblanks, hmarker⟩
  have hnone := escapeMarker_not_mem_leading hblanks hmarker
  rw [← List.append_assoc] at htext
  cases hfront : blanks ++ marker with
  | nil => exact hmarker.ne_nil (List.append_eq_nil_iff.1 hfront).2
  | cons a front =>
    rw [hfront, List.cons_append] at htext
    rw [hfront, ← (List.cons.inj htext).1] at hnone
    exact hnone List.mem_cons_self

/-- A match in a text lies at its beginning, blanks and then the marker that the group keeps. -/
theorem exists_marker_of_mem_matchesIn {text : List Char} {m : Match}
    (hm : m ∈ leadingMarker.matchesIn text) :
    ∃ blanks marker rest, text = blanks ++ (marker ++ rest) ∧
      (∀ a ∈ blanks, Text.isBlank a = true) ∧ IsMarker marker ∧
      m.group? (.number 1) = some marker := by
  rcases exists_end_of_mem_matchesIn hm with ⟨before, behind, -, e, he, rfl⟩
  rcases exists_marker_of_mem_ends he with
    ⟨hstart, blanks, marker, hblanks, hmarker, hreach, hgroup⟩
  -- A match lies at the beginning, so there is nothing before it.
  obtain rfl : before = [] := by
    have : 0 + before.length = 0 := hstart
    exact List.length_eq_zero_iff.1 (by omega)
  rw [after_nil] at hreach hgroup ⊢
  have hrest : text = blanks ++ marker ++ e.rest := hreach.rest
  exact ⟨blanks, marker, e.rest, by rw [hrest, List.append_assoc], hblanks, hmarker, hgroup⟩

/-- Where a marker opens the text, the first match is the preferred one at the beginning. -/
theorem exists_onward?_of_hasMarker {text : List Char} (h : HasMarker text) :
    ∃ e ms, leadingMarker.onward? (atStart text) = some e ∧
      leadingMarker.matchesIn text = (atStart text).matchTo e :: ms := by
  rcases h with ⟨blanks, marker, rest, htext, hblanks, hmarker⟩
  have hpre : blanks ++ marker <+: (atStart text).rest := by
    rw [← List.append_assoc] at htext
    exact ⟨rest, htext.symm⟩
  rcases exists_mem_ends_of_marker hblanks hmarker hpre with ⟨hf, e', he', hreach⟩
  have hend := mem_ends_leadingMarker.2 ⟨rfl, _, hf, he'⟩
  have hrun := leadingMarker.run_scan text
  unfold matchesIn
  -- A scan cannot stop at the beginning, nor touch it or skip it.
  generalize leadingMarker.scan text = pieces at hrun
  cases hrun with
  | stop hrest =>
    rw [hrest, List.prefix_nil] at hpre
    exact absurd (List.append_eq_nil_iff.1 hpre).2 hmarker.ne_nil
  | @touch _ e _ he hpos _ =>
    rcases exists_marker_of_mem_ends he with ⟨-, _, _, -, hsign, hreach, -⟩
    have hlt := position_lt_of_marker hsign hreach
    omega
  | skip _ hnone _ =>
    have hle := onward?_eq_none_iff.1 hnone e' hend
    have hlt := position_lt_of_marker hmarker hreach
    omega
  | @take _ e pieces he _ => exact ⟨e, pieces.filterMap Piece.match?, he, rfl⟩

theorem occursIn_leadingMarker_iff (text : List Char) :
    leadingMarker.occursIn text = true ↔ HasMarker text := by
  constructor
  · intro hoccurs
    cases hmatches : leadingMarker.matchesIn text with
    | nil => simp [occursIn, hmatches] at hoccurs
    | cons m ms =>
      have hm : m ∈ leadingMarker.matchesIn text := hmatches ▸ List.mem_cons_self
      rcases exists_marker_of_mem_matchesIn hm with
        ⟨blanks, marker, rest, htext, hblanks, hmarker, -⟩
      exact ⟨blanks, marker, rest, htext, hblanks, hmarker⟩
  · intro hmarker
    rcases exists_onward?_of_hasMarker hmarker with ⟨e, ms, -, hmatches⟩
    simp [occursIn, hmatches]

/-! ## What becomes of a text -/

theorem escapeLeading_of_not_hasMarker {text : List Char} (h : ¬ HasMarker text) :
    escapeLeading text = text := by
  rw [← occursIn_leadingMarker_iff, occursIn] at h
  have hmatches : leadingMarker.matchesIn text = [] := by simpa using h
  unfold escapeLeading replaceFirst
  rw [hmatches]

/-- Where a marker opens the text, a backslash takes the place of the blanks before it, of as many
as can stand before a marker. -/
theorem escapeLeading_of_hasMarker {text : List Char} (h : HasMarker text) :
    ∃ blanks marker rest, text = blanks ++ (marker ++ rest) ∧
      (∀ a ∈ blanks, Text.isBlank a = true) ∧ IsMarker marker ∧
      escapeLeading text = escapeMarker :: (marker ++ rest) ∧
      ∀ blanks' marker', (∀ a ∈ blanks', Text.isBlank a = true) → IsMarker marker' →
        blanks' ++ marker' <+: text → blanks'.length ≤ blanks.length := by
  rcases exists_onward?_of_hasMarker h with ⟨e, ms, he, hmatches⟩
  rcases exists_longest_of_onward? he with
    ⟨blanks, marker, hblanks, hmarker, hreach, hgroup, hlongest⟩
  have hrest : text = blanks ++ marker ++ e.rest := hreach.rest
  refine ⟨blanks, marker, e.rest, by rw [hrest, List.append_assoc], hblanks, hmarker, ?_, hlongest⟩
  have hbegin : ((atStart text).matchTo e).start = 0 := rfl
  have htext : ((atStart text).matchTo e).text = blanks ++ marker := hreach.textTo_eq
  have hbehind : text.drop (blanks ++ marker).length = e.rest := by rw [hrest, List.drop_left]
  unfold escapeLeading replaceFirst
  rw [hmatches]
  show text.take _ ++ escapeMarker :: Option.getD _ [] ++ text.drop (_ + _) = _
  rw [hgroup, hbegin, htext, Nat.zero_add, hbehind]
  rfl

/-- A text keeps its beginning, or a backslash takes the place of the blanks before the marker that
opens it. -/
theorem escapeLeading_cases (text : List Char) :
    escapeLeading text = text ∨ ∃ blanks marker rest, text = blanks ++ (marker ++ rest) ∧
      (∀ a ∈ blanks, Text.isBlank a = true) ∧ IsMarker marker ∧
      escapeLeading text = escapeMarker :: (marker ++ rest) := by
  by_cases h : HasMarker text
  · rcases escapeLeading_of_hasMarker h with
      ⟨blanks, marker, rest, htext, hblanks, hmarker, hescaped, -⟩
    exact Or.inr ⟨blanks, marker, rest, htext, hblanks, hmarker, hescaped⟩
  · exact Or.inl (escapeLeading_of_not_hasMarker h)

theorem not_hasMarker_escapeLeading (text : List Char) : ¬ HasMarker (escapeLeading text) := by
  by_cases h : HasMarker text
  · rcases escapeLeading_of_hasMarker h with ⟨_, marker, rest, -, -, -, hescaped, -⟩
    rw [hescaped]
    exact not_hasMarker_cons _
  · rwa [escapeLeading_of_not_hasMarker h]

/-- A text stays as it is just if no marker opens it. -/
theorem escapeLeading_eq_iff (text : List Char) : escapeLeading text = text ↔ ¬ HasMarker text := by
  constructor
  · intro hsame
    rw [← hsame]
    exact not_hasMarker_escapeLeading text
  · exact escapeLeading_of_not_hasMarker

end LiteralMarkdown
