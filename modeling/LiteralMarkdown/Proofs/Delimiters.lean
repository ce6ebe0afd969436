import LiteralMarkdown.Proofs.Marks
import LiteralMarkdown.Proofs.Pattern.Language
import LiteralMarkdown.Proofs.Pattern.Run

/-!
# Delimiters

What a rule escapes are the delimiters of its matches. The first half is about all rules: a rule
marks the delimiters of its matches, and what it makes of a text is the shown reading of its marks.
The second half says what the matches of the six rules look like: a run of one delimiter, content,
and the same run again, or an opening bracket alone.
-/

namespace LiteralMarkdown

open Glyph

namespace Match

/-- The opening delimiter of a match of a rule. -/
def opening (m : Match) : List Char := (m.group? EscapeRule.opening).getD []

/-- The closing delimiter of a match of a rule, if the rule has any. -/
def closing (m : Match) : Arity → List Char
  | .leading => []
  | .surrounding => (m.group? EscapeRule.closing).getD []

/-- What lies between the delimiters. -/
def content (m : Match) (arity : Arity) : List Char :=
  (m.text.take (m.text.length - (m.closing arity).length)).drop m.opening.length

/-- The delimiters of the match lie at its two ends and do not overlap. -/
def Framed (m : Match) (arity : Arity) : Prop :=
  m.text = m.opening ++ (m.content arity ++ m.closing arity)

theorem framed_of_eq {m : Match} {arity : Arity} {content : List Char}
    (h : m.text = m.opening ++ (content ++ m.closing arity)) : m.Framed arity := by
  have hcontent : m.content arity = content := by
    -- The content is cut out by lengths, so the lengths of the two delimiters settle it.
    have hlen : m.text.length - (m.closing arity).length = (m.opening ++ content).length := by
      have := congrArg List.length h
      simp only [List.length_append] at this ⊢
      omega
    rw [Match.content, hlen, h, ← List.append_assoc, List.take_left, List.drop_left]
  rw [Framed, hcontent]
  exact h

theorem escaped_eq (m : Match) (arity : Arity) :
    m.escaped arity =
      escapeDelimiter m.opening ++ (m.content arity ++ escapeDelimiter (m.closing arity)) := by
  cases arity with
  | leading => simp [Match.escaped, opening, content, closing, escapeDelimiter]
  | surrounding =>
    cases hclosing : m.group? EscapeRule.closing <;>
      simp [Match.escaped, opening, content, closing, escapeDelimiter, hclosing]

/-- A match with its delimiters marked. -/
def marks (m : Match) (arity : Arity) : List Glyph :=
  ofText true m.opening ++ (ofText false (m.content arity) ++ ofText true (m.closing arity))

theorem shown_marks (m : Match) (arity : Arity) : shown (m.marks arity) = m.escaped arity := by
  simp [marks, escaped_eq]

theorem Framed.plain_marks {m : Match} {arity : Arity} (h : m.Framed arity) :
    plain (m.marks arity) = m.text := by
  simpa [marks] using h.symm

end Match

/-- A piece of a text with the delimiters marked, if it is a match. -/
def Piece.marks (arity : Arity) : Piece → List Glyph
  | .skipped c => [⟨c, false⟩]
  | .found m => m.marks arity

/-- A text with the delimiters of every match of a rule marked. -/
def EscapeRule.marks (rule : EscapeRule) (text : List Char) : List Glyph :=
  (rule.pattern.scan text).flatMap (Piece.marks rule.arity)

theorem EscapeRule.shown_marks (rule : EscapeRule) (text : List Char) :
    shown (rule.marks text) = escapeDelimiters rule text := by
  rw [marks, shown_flatMap, escapeDelimiters, Pattern.replaceAll]
  congr 1
  funext piece
  cases piece with
  | skipped c => rfl
  | found m => exact m.shown_marks rule.arity

/-- Marks on pieces whose matches are framed leave their texts as they are. -/
theorem Piece.plain_marks {arity : Arity} {pieces : List Piece}
    (h : ∀ m, .found m ∈ pieces → m.Framed arity) :
    plain (pieces.flatMap (Piece.marks arity)) = pieces.flatMap Piece.text := by
  rw [plain_flatMap]
  refine List.flatMap_congr fun piece hpiece => ?_
  cases piece with
  | skipped c => rfl
  | found m => exact (h m hpiece).plain_marks

/-! ## The shape of matches -/

/-- The match is a run of `n` delimiters, a body, and a run of `k` delimiters, and the runs are what
a rule of the arity escapes. -/
structure Match.Encloses (m : Match) (arity : Arity) (d : Char) (n k : Nat) (body : List Char) :
    Prop where
  opening : m.opening = List.replicate n d
  closing : m.closing arity = List.replicate k d
  text : m.text = List.replicate n d ++ (body ++ List.replicate k d)

namespace Match.Encloses

variable {m : Match} {arity : Arity} {d : Char} {n k : Nat} {body : List Char}

theorem framed (h : m.Encloses arity d n k body) : m.Framed arity := by
  have hframe : m.text = m.opening ++ (body ++ m.closing arity) := by
    rw [h.opening, h.closing, h.text]
  exact framed_of_eq hframe

theorem marks_eq (h : m.Encloses arity d n k body) :
    m.marks arity = List.replicate n ⟨d, true⟩ ++
      (ofText false body ++ List.replicate k ⟨d, true⟩) := by
  have hcontent : m.content arity = body := by
    have := h.framed
    rw [Framed, h.text, h.opening, h.closing] at this
    exact (List.append_cancel_right (List.append_cancel_left this)).symm
  rw [marks, hcontent, h.opening, h.closing]
  simp [ofText]

end Match.Encloses

/-- All matches of the rule enclose something in runs of one delimiter. -/
def EscapeRule.Delimits (rule : EscapeRule) (d : Char) : Prop :=
  ∀ c : Cursor, c.captured = [] → ∀ e ∈ rule.pattern.ends c,
    ∃ n k body, (c.matchTo e).Encloses rule.arity d n k body

namespace EscapeRule.Delimits

variable {rule : EscapeRule} {d : Char}

theorem exists_encloses (h : rule.Delimits d) {text : List Char} {m : Match}
    (hm : .found m ∈ rule.pattern.scan text) : ∃ n k body, m.Encloses rule.arity d n k body := by
  rcases List.append_of_mem hm with ⟨before, behind, hscan⟩
  rcases Pattern.exists_mem_ends_of_scan hscan with ⟨c, e, hc, he, rfl, -⟩
  exact h c hc e he

theorem framed (h : rule.Delimits d) {text : List Char} {m : Match}
    (hm : .found m ∈ rule.pattern.scan text) : m.Framed rule.arity := by
  rcases h.exists_encloses hm with ⟨n, k, body, hencloses⟩
  exact hencloses.framed

theorem plain_marks (h : rule.Delimits d) (text : List Char) : plain (rule.marks text) = text := by
  rw [EscapeRule.marks, Piece.plain_marks fun m hm => h.framed hm]
  exact rule.pattern.flatMap_text_scan text

theorem char_eq (h : rule.Delimits d) {text : List Char} {g : Glyph} (hg : g ∈ rule.marks text)
    (he : g.escaped = true) : g.char = d := by
  rcases List.mem_flatMap.1 hg with ⟨piece, hpiece, hg⟩
  cases piece with
  | skipped c =>
    have : g = ⟨c, false⟩ := by simpa [Piece.marks] using hg
    simp [this] at he
  | found m =>
    -- The marks of a match lie in its two runs.
    rcases h.exists_encloses hpiece with ⟨n, k, body, hencloses⟩
    have hmark : g ∈ List.replicate n ⟨d, true⟩ ++
        (ofText false body ++ List.replicate k ⟨d, true⟩) := hencloses.marks_eq ▸ hg
    rcases List.mem_append.1 hmark with hg | hg
    · rw [(List.mem_replicate.1 hg).2]
    · rcases List.mem_append.1 hg with hg | hg
      · rw [(mem_ofText.1 hg).2] at he
        cases he
      · rw [(List.mem_replicate.1 hg).2]

/-- What a rule makes of a text has a backslash more before some of its delimiters. -/
theorem escapes (h : rule.Delimits d) (text : List Char) :
    Escapes [d] text (escapeDelimiters rule text) :=
  ⟨rule.marks text, h.plain_marks text, rule.shown_marks text, fun _ hg he =>
    List.mem_singleton.2 (h.char_eq hg he)⟩

end EscapeRule.Delimits

/-! ## The matches of the rules -/

namespace EscapeRule

open Pattern Computability

theorem opening_matchTo {c e : Cursor} {kept : Capture} {x : List Char}
    (h : e.captured.lookup opening = some kept) (hx : kept.text = x) :
    (c.matchTo e).opening = x := by
  rw [Match.opening, group?_matchTo, h]
  exact hx

theorem closing_matchTo {c e : Cursor} {kept : Capture} {x : List Char}
    (h : e.captured.lookup closing = some kept) (hx : kept.text = x) :
    (c.matchTo e).closing .surrounding = x := by
  rw [Match.closing, group?_matchTo, h]
  exact hx

/-- What a paired rule matches behind its opening run is content and the same run again. -/
theorem exists_encloses_of_opening {d : Char} {least : Nat} {content : Pattern → Pattern}
    {K : Language Char} (hK : (content (.chars (.noneOf [d]))).Accepts K) {c c₁ e : Cursor}
    (hc : c.captured = [])
    (h₁ : c₁ ∈ (Pattern.group opening (.atLeast least .greedy (.char d))).ends c)
    (he : e ∈ (content (.chars (.noneOf [d])) ++ .group closing (.backref opening)).ends c₁) :
    ∃ n body, least ≤ n ∧ body ∈ K ∧ c₁.position = c.position + n ∧
      (c.matchTo e).Encloses .surrounding d n n body := by
  rcases mem_ends_append.1 he with ⟨c₂, h₂, he⟩
  rcases exists_reaches_of_mem_ends_group h₁ with ⟨d₁, hd₁, hgroup₁⟩
  rcases (accepts_atLeast_char least .greedy d).exists_reaches hd₁ with
    ⟨_, ⟨n, hn, rfl⟩, hrun, hkept₁⟩
  rcases hgroup₁ _ hrun with ⟨hopening, first, hfirst, hfirsttext⟩
  rcases hK.exists_reaches h₂ with ⟨body, hbody, hcontent, hkept₂⟩
  rcases exists_reaches_of_mem_ends_group he with ⟨d₂, hd₂, hgroup₂⟩
  rcases mem_ends_backref.1 hd₂ with ⟨kept, hkept, hpre, rfl⟩
  rcases hgroup₂ _ (Cursor.reaches_after hpre) with ⟨hclosing, second, hsecond, hsecondtext⟩
  rw [hkept₁, hc] at hfirst
  -- The second group repeats the run that the first one has kept.
  have hsame : kept = first := by
    rw [hkept₂, hfirst] at hkept
    simpa using hkept.symm
  rw [hsame, hfirsttext] at hclosing hsecondtext
  rw [Cursor.after_captured, hkept₂, hfirst] at hsecond
  have hall := hopening.trans (hcontent.trans hclosing)
  have hposition := hopening.position
  rw [List.length_replicate] at hposition
  refine ⟨n, body, hn, hbody, hposition, ?_, ?_, hall.textTo_eq⟩
  · exact opening_matchTo (by rw [hsecond]; rfl) hfirsttext
  · exact closing_matchTo (by rw [hsecond]; rfl) hsecondtext

/-- A match of a paired rule has the same run of delimiters on both sides. -/
theorem exists_encloses_paired {d : Char} {least : Nat} {content : Pattern → Pattern}
    {K : Language Char} (hK : (content (.chars (.noneOf [d]))).Accepts K) {c e : Cursor}
    (hc : c.captured = []) (he : e ∈ (paired d least content).ends c) :
    ∃ n body, least ≤ n ∧ body ∈ K ∧ (c.matchTo e).Encloses .surrounding d n n body := by
  rcases mem_ends_append.1 he with ⟨c₁, h₁, he⟩
  rcases exists_encloses_of_opening hK hc h₁ he with ⟨n, body, hn, hbody, -, hencloses⟩
  exact ⟨n, body, hn, hbody, hencloses⟩

/-- A match of the rule for single underscores has one on both sides and ends at the end of a
word. -/
theorem exists_encloses_underscoreEmphasis {c e : Cursor} (hc : c.captured = [])
    (he : e ∈ underscoreEmphasis.pattern.ends c) :
    ∃ body, body ≠ [] ∧ '_' ∉ body ∧ (c.matchTo e).Encloses .surrounding '_' 1 1 body ∧
      e.rest.head?.any Text.isWord = false := by
  rcases mem_ends_append.1 he with ⟨c₁, h₁, he⟩
  rcases mem_ends_append.1 he with ⟨c₂, h₂, he⟩
  rcases mem_ends_append.1 he with ⟨c₃, h₃, he⟩
  rcases mem_ends_wordBoundary.1 he with ⟨hboundary, rfl⟩
  rcases exists_reaches_of_mem_ends_group h₁ with ⟨d₁, hd₁, hgroup₁⟩
  rcases (accepts_char_only '_').exists_reaches hd₁ with ⟨_, rfl, hrun, hkept₁⟩
  rcases hgroup₁ _ hrun with ⟨hopening, first, hfirst, hfirsttext⟩
  rcases (accepts_oneOrMore_chars _).exists_reaches h₂ with ⟨body, ⟨hne, hchars⟩, hcontent, hkept₂⟩
  rcases exists_reaches_of_mem_ends_group h₃ with ⟨d₃, hd₃, hgroup₃⟩
  rcases (accepts_char_only '_').exists_reaches hd₃ with ⟨_, rfl, hrun₃, hkept₃⟩
  rcases hgroup₃ _ hrun₃ with ⟨hclosing, second, hsecond, hsecondtext⟩
  rw [hkept₁, hc] at hfirst
  rw [hkept₃, hkept₂, hfirst] at hsecond
  have hall := hopening.trans (hcontent.trans hclosing)
  have hnone : '_' ∉ body := fun hmem => CharSet.has_noneOf.1 (hchars _ hmem) rfl
  refine ⟨body, hne, hnone, ⟨?_, ?_, hall.textTo_eq⟩, ?_⟩
  · exact opening_matchTo (by rw [hsecond]; rfl) hfirsttext
  · exact closing_matchTo (by rw [hsecond]; rfl) hsecondtext
  · -- The closing underscore is a word character, so what follows is none.
    have hprevious : e.previous = some '_' := by simp [hclosing.previous]
    have hword : Text.isWord '_' = true := by decide
    simpa [Cursor.atWordBoundary, hprevious, hword] using hboundary

theorem ends_char_eq_nil_iff {d : Char} {c : Cursor} :
    (Pattern.char d).ends c = [] ↔ c.rest.head? ≠ some d := by
  rw [List.eq_nil_iff_forall_not_mem]
  constructor
  · intro hnone hhead
    rcases List.head?_eq_some_iff.1 hhead with ⟨rest, hrest⟩
    exact hnone _ ((accepts_char_only d c _).2 ⟨_, rfl, ⟨rest, hrest.symm⟩, rfl⟩)
  · intro hhead e he
    rcases (accepts_char_only d c e).1 he with ⟨_, rfl, ⟨rest, hrest⟩, -⟩
    exact hhead (by rw [← hrest]; rfl)

/-- What a rule for brackets asks of the text behind the opening one. -/
theorem accepts_bracketBody : (zeroOrMore (.chars (.noneOf [']'])) ++ .char ']').Accepts
    (wordsWhere fun x => ∃ inner, x = inner ++ [']'] ∧ ']' ∉ inner) := by
  refine ((accepts_zeroOrMore_chars _).seq (accepts_char_only ']')).of_iff fun x => ?_
  rw [Language.mem_mul]
  constructor
  · rintro ⟨inner, rfl, hinner⟩
    refine ⟨inner, ?_, [']'], rfl, rfl⟩
    intro a ha
    exact CharSet.has_noneOf.2 fun h => hinner (h ▸ ha)
  · rintro ⟨inner, hinner, _, rfl, rfl⟩
    exact ⟨inner, rfl, fun hmem => CharSet.has_noneOf.1 (hinner _ hmem) rfl⟩

/-- A match of the rule for brackets goes from one to the next closing one, and no caret follows the
first. -/
theorem exists_encloses_bracketLink {c e : Cursor} (he : e ∈ bracketLink.pattern.ends c) :
    ∃ body, body.head? ≠ some '^' ∧ (∃ inner, body = inner ++ [']'] ∧ ']' ∉ inner) ∧
      (c.matchTo e).Encloses .leading '[' 1 0 body := by
  rcases mem_ends_append.1 he with ⟨c₁, h₁, he⟩
  rcases exists_reaches_of_mem_ends_group h₁ with ⟨d₁, hd₁, hgroup₁⟩
  rcases (accepts_char_only '[').exists_reaches hd₁ with ⟨_, rfl, hrun, hkept₁⟩
  rcases hgroup₁ _ hrun with ⟨hopening, first, hfirst, hfirsttext⟩
  rcases mem_ends_append.1 he with ⟨c₂, h₂, hrest⟩
  rcases mem_ends_notAhead.1 h₂ with ⟨hcaret, rfl⟩
  rcases accepts_bracketBody.exists_reaches hrest with
    ⟨_, ⟨inner, rfl, hinner⟩, hcontent, hkept₂⟩
  refine ⟨inner ++ [']'], ?_, ⟨inner, rfl, hinner⟩, ?_, rfl, ?_⟩
  · rw [ends_char_eq_nil_iff, hcontent.rest, List.head?_append] at hcaret
    intro hhead
    rw [hhead] at hcaret
    exact hcaret rfl
  · exact opening_matchTo (by rw [hkept₂, hfirst]; rfl) hfirsttext
  · have htext := (hopening.trans hcontent).textTo_eq
    simpa [Cursor.matchTo] using htext

/-- A paired rule marks its delimiter only, whatever it asks of the content. -/
theorem delimits_of_paired {rule : EscapeRule} {d : Char} {least : Nat}
    {content : Pattern → Pattern} {K : Language Char}
    (hpattern : rule.pattern = paired d least content) (harity : rule.arity = .surrounding)
    (hK : (content (.chars (.noneOf [d]))).Accepts K) : rule.Delimits d := by
  intro c hc e he
  rw [hpattern] at he
  rcases exists_encloses_paired hK hc he with ⟨n, body, -, -, h⟩
  rw [harity]
  exact ⟨n, n, body, h⟩

theorem delimits_asteriskEmphasis : asteriskEmphasis.Delimits '*' :=
  delimits_of_paired rfl rfl (accepts_chars _).oneOrMore

theorem delimits_underscoreEmphasis : underscoreEmphasis.Delimits '_' := by
  intro c hc e he
  rcases exists_encloses_underscoreEmphasis hc he with ⟨body, -, -, h, -⟩
  exact ⟨1, 1, body, h⟩

theorem delimits_underscoreStrong : underscoreStrong.Delimits '_' :=
  delimits_of_paired rfl rfl (accepts_chars _).oneOrMore

theorem delimits_tildeStrikethrough : tildeStrikethrough.Delimits '~' :=
  delimits_of_paired rfl rfl (accepts_chars _).oneOrMore

theorem delimits_backtickCode : backtickCode.Delimits '\x60' :=
  delimits_of_paired rfl rfl (accepts_chars _).zeroOrMore

theorem delimits_bracketLink : bracketLink.Delimits '[' := by
  intro c _ e he
  rcases exists_encloses_bracketLink he with ⟨body, -, -, h⟩
  exact ⟨1, 0, body, h⟩

end EscapeRule

end LiteralMarkdown
