import LiteralMarkdown.Proofs.Order
import LiteralMarkdown.Proofs.Segments.Division
import Mathlib.Data.Finset.Union
import Mathlib.Order.Interval.Finset.Nat

/-!
# Places of delimiters

What a rule escapes can be told from its matches alone, whatever its pattern is: the characters of
the first group, with which a match begins, and if the rule is surrounding those of the second
group, with which it ends. A match gives its groups by their texts; a group that lies at the
beginning of its match holds the first characters of it, and one that lies at the end the last ones.
`HoldsDelimiterAt` says which places of the text these are. A group that is empty or took no part
has no such place, and no more has the second group of a rule that is not surrounding.

* `escapeDelimiters_eq_replaceMatches`: a rule replaces its matches one after the other and keeps
  what lies between them;
* `delimitersEscaped_escapeDelimiters`: with matches that are delimited by their groups this puts
  one backslash before each character of a delimiter, and the matches of the six rules are so.
-/

namespace LiteralMarkdown

open Glyph Segment

/-! ## Replacing matches -/

/-- The text ahead, from an index on, with the matches that lie in it replaced. What lies between
them is kept. -/
def replaceMatches (replace : Match → List Char) (index : Nat) (rest : List Char) :
    List Match → List Char
  | [] => rest
  | m :: ms =>
    let gap := m.start - index
    rest.take gap ++ (replace m ++
      replaceMatches replace (m.start + m.text.length) (rest.drop (gap + m.text.length)) ms)

section Replacing

variable {replace : Match → List Char} {index : Nat}

theorem replaceMatches_cons {m : Match} {gap : List Char} (hstart : m.start = index + gap.length)
    (rest : List Char) (ms : List Match) :
    replaceMatches replace index (gap ++ (m.text ++ rest)) (m :: ms) =
      gap ++ (replace m ++ replaceMatches replace (m.start + m.text.length) rest ms) := by
  have hgap : m.start - index = gap.length := by omega
  have hdrop : (gap ++ (m.text ++ rest)).drop (gap.length + m.text.length) = rest := by
    rw [← List.append_assoc, ← List.length_append, List.drop_left]
  simp only [replaceMatches, hgap, List.take_left, hdrop]

namespace Segment.Placed

variable {rest : List Char} {ms : List Match}

/-- What stands before all matches is kept. -/
theorem replaceMatches_append (gap : List Char) (h : Placed (index + gap.length) rest ms) :
    replaceMatches replace index (gap ++ rest) ms =
      gap ++ replaceMatches replace (index + gap.length) rest ms := by
  cases h with
  | nil => rfl
  | @cons _ m inner rest ms hstart next =>
    have hfar : m.start = index + (gap ++ inner).length := by
      rw [hstart, List.length_append, Nat.add_assoc]
    rw [replaceMatches_cons hstart, ← List.append_assoc, replaceMatches_cons hfar,
      List.append_assoc]

/-- A text gets longer by what the replacements of its matches have more than these. -/
theorem length_replaceMatches (h : Placed index rest ms) {added : Match → Nat}
    (hadded : ∀ m ∈ ms, (replace m).length = m.text.length + added m) :
    (replaceMatches replace index rest ms).length = rest.length + (ms.map added).sum := by
  induction h with
  | nil => rfl
  | @cons index m gap rest ms hstart next ih =>
    have hfirst := hadded m List.mem_cons_self
    have hothers := ih fun m' hm' => hadded m' (List.mem_cons_of_mem m hm')
    rw [replaceMatches_cons hstart]
    simp only [List.length_append, List.map_cons, List.sum_cons, hfirst, hothers]
    omega

end Segment.Placed

/-- A piece with its match replaced, if it is one. -/
def Piece.replaced (replace : Match → List Char) : Piece → List Char
  | .skipped c => [c]
  | .found m => replace m

/-- Replacing the matches that a run has found is replacing them piece by piece. -/
theorem Pattern.Run.replaceMatches_eq {p : Pattern} {c : Cursor} {pieces : List Piece}
    (h : Run p c pieces) :
    replaceMatches replace c.position c.rest (pieces.filterMap Piece.match?) =
      pieces.flatMap (Piece.replaced replace) := by
  induction h using Pattern.Run.found_induction with
  | stop hrest => simp [hrest, replaceMatches]
  | @skip c x rest pieces hrest hnone next ih =>
    have hplaced := next.placed
    have hafter : (c.after [x]).rest = rest := Cursor.after_rest (x := [x]) hrest
    rw [hafter] at ih hplaced
    have hskip : replaceMatches replace c.position ([x] ++ rest) (pieces.filterMap Piece.match?) =
        [x] ++ replaceMatches replace (c.position + 1) rest (pieces.filterMap Piece.match?) :=
      hplaced.replaceMatches_append [x]
    rw [filterMap_match?_skipped, hrest, List.flatMap_cons, ← ih]
    exact hskip
  | @found c e pieces he next h ih =>
    have hreach := reaches_text_matchTo he
    rw [Cursor.after_rest hreach.rest] at ih
    -- Nothing stands before the match.
    have hfirst := @replaceMatches_cons replace c.position (c.matchTo e) [] rfl e.rest
      (pieces.filterMap Piece.match?)
    rw [List.nil_append, List.nil_append] at hfirst
    rw [filterMap_match?_found, hreach.rest, hfirst, List.flatMap_cons, ← ih]
    rfl

theorem Pattern.replaceAll_eq_replaceMatches (p : Pattern) (text : List Char) :
    p.replaceAll replace text = replaceMatches replace 0 text (p.matchesIn text) := by
  have hpieces : replaceMatches replace 0 text (p.matchesIn text) =
      (p.scan text).flatMap (Piece.replaced replace) := (p.run_scan text).replaceMatches_eq
  rw [hpieces]
  rfl

end Replacing

theorem escapeDelimiters_eq_replaceMatches (rule : EscapeRule) (text : List Char) :
    escapeDelimiters rule text =
      replaceMatches (fun m => m.escaped rule.arity) 0 text (rule.pattern.matchesIn text) :=
  rule.pattern.replaceAll_eq_replaceMatches text

/-! ## Delimited matches -/

theorem length_escapeDelimiter (delimiter : List Char) :
    (escapeDelimiter delimiter).length = 2 * delimiter.length := by
  induction delimiter with
  | nil => rfl
  | cons c rest ih =>
    rw [escapeDelimiter] at ih ⊢
    rw [List.flatMap_cons, List.length_append, ih]
    simp only [List.length_cons, List.length_nil]
    omega

namespace Match

/-- The first group took part in the match, which begins with it; the match ends with the second
group, if the rule escapes it and it took part; and the two do not overlap. -/
structure Delimited (m : Match) (arity : Arity) : Prop where
  takesPart : (m.group? EscapeRule.opening).isSome = true
  begins : m.opening <+: m.text
  ends : m.closing arity <:+ m.text
  apart : m.opening.length + (m.closing arity).length ≤ m.text.length

instance (m : Match) (arity : Arity) : Decidable (m.Delimited arity) :=
  decidable_of_iff
    ((m.group? EscapeRule.opening).isSome = true ∧ m.opening <+: m.text ∧
      m.closing arity <:+ m.text ∧
      m.opening.length + (m.closing arity).length ≤ m.text.length)
    ⟨fun ⟨takesPart, begins, ends, apart⟩ => ⟨takesPart, begins, ends, apart⟩,
      fun h => ⟨h.takesPart, h.begins, h.ends, h.apart⟩⟩

/-- The place belongs to a delimiter that a rule of the arity escapes: to the first characters of
the match, as many as the first group has, or to the last ones, as many as the second group has. -/
inductive HoldsDelimiterAt (m : Match) : Arity → Nat → Prop where
  | opening {arity : Arity} {leading : List Char} {i : Nat}
      (hgroup : m.group? EscapeRule.opening = some leading) (hlow : m.start ≤ i)
      (hhigh : i < m.start + leading.length) : HoldsDelimiterAt m arity i
  | closing {trailing : List Char} {i : Nat}
      (hgroup : m.group? EscapeRule.closing = some trailing)
      (hlow : m.start + m.text.length ≤ i + trailing.length)
      (hhigh : i < m.start + m.text.length) : HoldsDelimiterAt m .surrounding i

variable {m : Match} {arity : Arity} {i : Nat}

theorem holdsDelimiterAt_iff :
    m.HoldsDelimiterAt arity i ↔
      (m.start ≤ i ∧ i < m.start + m.opening.length) ∨
        (m.start + m.text.length ≤ i + (m.closing arity).length ∧
          i < m.start + m.text.length) := by
  constructor
  · intro h
    cases h with
    | opening hgroup hlow hhigh =>
      rw [Match.opening, hgroup]
      exact Or.inl ⟨hlow, hhigh⟩
    | closing hgroup hlow hhigh =>
      rw [Match.closing, hgroup]
      exact Or.inr ⟨hlow, hhigh⟩
  · -- A group without a text has no characters.
    rintro (⟨hlow, hhigh⟩ | ⟨hlow, hhigh⟩)
    · rw [Match.opening] at hhigh
      cases hgroup : m.group? EscapeRule.opening with
      | none =>
        rw [hgroup, Option.getD_none, List.length_nil] at hhigh
        omega
      | some leading =>
        rw [hgroup] at hhigh
        exact .opening hgroup hlow hhigh
    · cases arity with
      | leading =>
        rw [Match.closing, List.length_nil] at hlow
        omega
      | surrounding =>
        rw [Match.closing] at hlow
        cases hgroup : m.group? EscapeRule.closing with
        | none =>
          rw [hgroup, Option.getD_none, List.length_nil] at hlow
          omega
        | some trailing =>
          rw [hgroup] at hlow
          exact .closing hgroup hlow hhigh

/-- The places of the delimiters of a match. -/
def delimiterPlaces (m : Match) (arity : Arity) : Finset Nat :=
  let stop := m.start + m.text.length
  Finset.Ico m.start (m.start + m.opening.length) ∪
    Finset.Ico (stop - (m.closing arity).length) stop

theorem mem_delimiterPlaces : i ∈ m.delimiterPlaces arity ↔ m.HoldsDelimiterAt arity i := by
  rw [holdsDelimiterAt_iff, delimiterPlaces, Finset.mem_union, Finset.mem_Ico, Finset.mem_Ico]
  refine or_congr_right (and_congr_left fun _ => ?_)
  omega

namespace Delimited

theorem framed (h : m.Delimited arity) : m.Framed arity := by
  rcases h.begins with ⟨behind, hbehind⟩
  have hle : (m.closing arity).length ≤ behind.length := by
    have hlen := congrArg List.length hbehind
    have hapart := h.apart
    rw [List.length_append] at hlen
    omega
  -- The closing delimiter lies in what the opening one leaves of the match.
  rcases List.suffix_of_suffix_length_le h.ends ⟨m.opening, hbehind⟩ hle with ⟨content, rfl⟩
  exact framed_of_eq hbehind.symm

theorem inside (h : m.Delimited arity) (hi : m.HoldsDelimiterAt arity i) :
    m.start ≤ i ∧ i < m.start + m.text.length := by
  have hapart := h.apart
  rcases holdsDelimiterAt_iff.1 hi with ⟨hlow, hhigh⟩ | ⟨hlow, hhigh⟩
  · exact ⟨hlow, by omega⟩
  · exact ⟨by omega, hhigh⟩

theorem length_text (h : m.Delimited arity) :
    m.text.length = m.opening.length + ((m.content arity).length + (m.closing arity).length) := by
  have hlen := congrArg List.length (show m.text = _ from h.framed)
  rwa [List.length_append, List.length_append] at hlen

theorem length_escaped (h : m.Delimited arity) :
    (m.escaped arity).length =
      m.text.length + (m.opening.length + (m.closing arity).length) := by
  rw [escaped_eq, List.length_append, List.length_append, length_escapeDelimiter,
    length_escapeDelimiter, h.length_text]
  omega

/-- With a backslash before each of its delimiters' characters, and before no others, a match is as
the rule escapes it. -/
theorem escapedFrom_text (h : m.Delimited arity) {positions : Finset Nat}
    (hpositions : ∀ i, m.start ≤ i → i < m.start + m.text.length →
      (i ∈ positions ↔ m.HoldsDelimiterAt arity i)) :
    escapedFrom positions m.start m.text = m.escaped arity := by
  have hlen := h.length_text
  have hmem : ∀ i, m.start ≤ i → i < m.start + m.text.length → (i ∈ positions ↔
      (m.start ≤ i ∧ i < m.start + m.opening.length) ∨
        (m.start + m.text.length ≤ i + (m.closing arity).length ∧
          i < m.start + m.text.length)) := by
    intro i hlow hhigh
    rw [hpositions i hlow hhigh, holdsDelimiterAt_iff]
  have hopening : escapedFrom positions m.start m.opening = escapeDelimiter m.opening := by
    refine escapedFrom_of_mem fun i hlow hhigh => ?_
    exact (hmem i hlow (by omega)).2 (Or.inl ⟨hlow, hhigh⟩)
  have hcontent : escapedFrom positions (m.start + m.opening.length) (m.content arity) =
      m.content arity := by
    refine escapedFrom_of_not_mem fun i hlow hhigh => ?_
    rw [hmem i (by omega) (by omega)]
    omega
  have hclosing : escapedFrom positions (m.start + m.opening.length + (m.content arity).length)
      (m.closing arity) = escapeDelimiter (m.closing arity) := by
    refine escapedFrom_of_mem fun i hlow hhigh => ?_
    exact (hmem i (by omega) (by omega)).2 (Or.inr ⟨by omega, by omega⟩)
  calc escapedFrom positions m.start m.text
      = escapedFrom positions m.start
          (m.opening ++ (m.content arity ++ m.closing arity)) := by
        rw [← show m.text = _ from h.framed]
    _ = escapeDelimiter m.opening ++
          (m.content arity ++ escapeDelimiter (m.closing arity)) := by
        rw [escapedFrom_append, escapedFrom_append, hopening, hcontent, hclosing]
    _ = m.escaped arity := (m.escaped_eq arity).symm

end Delimited

/-- A match in two runs of one delimiter is delimited by them, if there is one to open it. -/
theorem Encloses.delimited {d : Char} {n k : Nat} {body : List Char}
    (h : m.Encloses arity d n k body) (hn : 0 < n) : m.Delimited arity := by
  have hopening := h.opening
  constructor
  case takesPart =>
    rw [Match.opening] at hopening
    cases hgroup : m.group? EscapeRule.opening with
    | none =>
      have hlen := congrArg List.length hopening
      rw [hgroup, List.length_replicate] at hlen
      exact absurd hlen hn.ne
    | some leading => rfl
  case begins =>
    rw [hopening, h.text]
    exact List.prefix_append ..
  case ends =>
    rw [h.closing, h.text, ← List.append_assoc]
    exact List.suffix_append ..
  case apart =>
    rw [hopening, h.closing, h.text]
    simp only [List.length_append]
    omega

end Match

/-- The matches of the six rules are delimited by their groups. -/
theorem EscapeRule.delimited_of_mem_all {rule : EscapeRule} (hrule : rule ∈ EscapeRule.all)
    {text : List Char} {m : Match} (hm : m ∈ rule.pattern.matchesIn text) :
    m.Delimited rule.arity := by
  rcases exists_form_of_mem_all hrule with ⟨form, hform⟩
  rcases recognizes_of_mem_withForms _ hform with ⟨hrec, -, -⟩
  rcases List.append_of_mem (Pattern.mem_matchesIn_iff.1 hm) with ⟨before, behind, hscan⟩
  rcases Pattern.exists_mem_ends_of_scan hscan with ⟨c, e, hc, he, rfl, -⟩
  rcases hrec.sound hc he with ⟨n, body, k, hentity, hencloses⟩
  exact hencloses.delimited (form.opens hentity)

/-! ## All matches of a text -/

/-- With a backslash before each character of a delimiter, and before no others, a text has its
matches escaped. -/
theorem Segment.Placed.replaceMatches_escaped {arity : Arity} {index : Nat} {rest : List Char}
    {ms : List Match} (h : Placed index rest ms) (hms : ∀ m ∈ ms, m.Delimited arity)
    {positions : Finset Nat} (hpositions : ∀ i, index ≤ i →
      (i ∈ positions ↔ ∃ m ∈ ms, m.HoldsDelimiterAt arity i)) :
    replaceMatches (fun m => m.escaped arity) index rest ms =
      escapedFrom positions index rest := by
  induction h with
  | nil =>
    refine (escapedFrom_of_not_mem fun i hlow _ => ?_).symm
    rw [hpositions i hlow]
    simp
  | @cons index m gap rest ms hstart next ih =>
    have hm := hms m List.mem_cons_self
    have hothers : ∀ m' ∈ ms, m'.Delimited arity := fun m' hm' =>
      hms m' (List.mem_cons_of_mem m hm')
    -- The delimiters of the first match lie in it, and those of the others lie behind it.
    have hbehind {i : Nat} (hi : ∃ m' ∈ ms, m'.HoldsDelimiterAt arity i) :
        m.start + m.text.length ≤ i := by
      rcases hi with ⟨m', hm', hi⟩
      have hlater := next.le_start m' hm'
      have hinside := (hothers m' hm').inside hi
      omega
    have hsplit {i : Nat} (hlow : index ≤ i) : i ∈ positions ↔
        m.HoldsDelimiterAt arity i ∨ ∃ m' ∈ ms, m'.HoldsDelimiterAt arity i := by
      rw [hpositions i hlow, List.exists_mem_cons_iff]
    have hgap : escapedFrom positions index gap = gap := by
      refine escapedFrom_of_not_mem fun i hlow hhigh => ?_
      rw [hsplit hlow]
      rintro (hi | hi)
      · have hinside := hm.inside hi
        omega
      · have hlater := hbehind hi
        omega
    have hmatch : escapedFrom positions m.start m.text = m.escaped arity := by
      refine hm.escapedFrom_text fun i hlow hhigh => ?_
      rw [hsplit (by omega), or_iff_left]
      intro hi
      have hlater := hbehind hi
      omega
    have hrest := ih hothers fun i hlow => by
      rw [hsplit (by omega), or_iff_right]
      intro hi
      have hinside := hm.inside hi
      omega
    rw [replaceMatches_cons hstart, escapedFrom_append, escapedFrom_append, hgap, ← hstart,
      hmatch, hrest]

/-- The result is the text with the delimiters of the matches escaped. -/
structure DelimitersEscaped (arity : Arity) (text : List Char) (ms : List Match)
    (result : List Char) : Prop where
  /-- One backslash stands before each character of a delimiter, and nothing else is changed. -/
  inserted : ∃ positions : Finset Nat, result = escapedAt positions text ∧
    ∀ i, i ∈ positions ↔ ∃ m ∈ ms, m.HoldsDelimiterAt arity i
  /-- The text gets longer by the length of all delimiters. -/
  length : result.length =
    text.length + (ms.map fun m => m.opening.length + (m.closing arity).length).sum

theorem Segment.Placed.delimitersEscaped {arity : Arity} {text : List Char} {ms : List Match}
    (h : Placed 0 text ms) (hms : ∀ m ∈ ms, m.Delimited arity) :
    DelimitersEscaped arity text ms (replaceMatches (fun m => m.escaped arity) 0 text ms) := by
  constructor
  case inserted =>
    let positions := ms.toFinset.biUnion fun m => m.delimiterPlaces arity
    have hpositions (i : Nat) : i ∈ positions ↔ ∃ m ∈ ms, m.HoldsDelimiterAt arity i := by
      simp only [positions, Finset.mem_biUnion, List.mem_toFinset, Match.mem_delimiterPlaces]
    exact ⟨positions, h.replaceMatches_escaped hms fun i _ => hpositions i, hpositions⟩
  case length => exact h.length_replaceMatches fun m hm => (hms m hm).length_escaped

/-- Whatever matches are found, in order and without overlaps, escaping them puts one backslash
before each character of their delimiters, if these delimit them; this is what a rule does with the
matches that its scan finds; and those of the six rules are always delimited. -/
theorem delimitersEscaped_escapeDelimiters (text : List Char) :
    (∀ (arity : Arity) (ms : List Match), InOrder text ms → (∀ m ∈ ms, m.Delimited arity) →
      DelimitersEscaped arity text ms (replaceMatches (fun m => m.escaped arity) 0 text ms)) ∧
    (∀ rule : EscapeRule,
      escapeDelimiters rule text =
        replaceMatches (fun m => m.escaped rule.arity) 0 text (rule.pattern.matchesIn text) ∧
      ((∀ m ∈ rule.pattern.matchesIn text, m.Delimited rule.arity) →
        DelimitersEscaped rule.arity text (rule.pattern.matchesIn text)
          (escapeDelimiters rule text))) ∧
    ∀ rule ∈ EscapeRule.all, ∀ m ∈ rule.pattern.matchesIn text, m.Delimited rule.arity := by
  have hescaped : ∀ (arity : Arity) (ms : List Match), InOrder text ms →
      (∀ m ∈ ms, m.Delimited arity) → DelimitersEscaped arity text ms
        (replaceMatches (fun m => m.escaped arity) 0 text ms) := by
    intro arity ms horder hms
    exact horder.placed_whole.delimitersEscaped hms
  refine ⟨hescaped, fun rule => ?_, fun _ hrule _ hm => EscapeRule.delimited_of_mem_all hrule hm⟩
  have hreplaced := escapeDelimiters_eq_replaceMatches rule text
  refine ⟨hreplaced, fun hms => ?_⟩
  rw [hreplaced]
  exact hescaped rule.arity _ (inOrder_matchesIn rule.pattern text) hms

/-- A rule for marked headings whose second group may take no part, and matches with an empty first
group, without a second one, and with two that meet. -/
theorem delimitersEscaped_escapeDelimiters_heading :
    let heading : EscapeRule := ⟨"heading", .sequence [
      .group EscapeRule.opening (.oneOrMore (.char '#')), .oneOrMore (.chars (.ofItem .word)),
      .optional (.group EscapeRule.closing (.oneOrMore (.char '#')))], .surrounding⟩
    let text := "##ab #c## d".toList
    let ms : List Match := [⟨0, "#".toList, [(EscapeRule.opening, [])]⟩,
      ⟨2, "ab".toList, [(EscapeRule.opening, "a".toList)]⟩,
      ⟨5, "#c##".toList, [(EscapeRule.closing, "c##".toList), (EscapeRule.opening, "#".toList)]⟩]
    ((∀ m ∈ heading.pattern.matchesIn text, m.Delimited .surrounding) ∧
      escapeDelimiters heading text = "\\#\\#ab \\#c\\#\\# d".toList ∧
      DelimitersEscaped .surrounding text (heading.pattern.matchesIn text)
        (escapeDelimiters heading text)) ∧
    InOrder text ms ∧ (∀ m ∈ ms, m.Delimited .surrounding) ∧
      DelimitersEscaped .surrounding text ms "##\\ab \\#\\c\\#\\# d".toList := by
  intro heading text ms
  have hheading : ∀ m ∈ heading.pattern.matchesIn text, m.Delimited .surrounding := by decide
  have hms : ∀ m ∈ ms, m.Delimited .surrounding := by decide
  have horder : InOrder text ms := by
    constructor
    · intro m hm
      refine ⟨text.take m.start, text.drop (m.start + m.text.length), ?_⟩
      revert m
      decide
    · decide
  exact ⟨⟨hheading, by decide,
      ((delimitersEscaped_escapeDelimiters text).2.1 heading).2 hheading⟩,
    horder, hms, (delimitersEscaped_escapeDelimiters text).1 .surrounding ms horder hms⟩

end LiteralMarkdown
