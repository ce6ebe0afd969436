import LiteralMarkdown.Proofs.Forms

/-!
# The forms that rules recognise

The patterns of the rules match just the entities of a form, and where several begin at one place
they prefer the one with most opening delimiters. So the scan of a rule is a reading of the text for
the entities of its form, and the marks of the rule are those of the form.

* `EscapeRule.Recognizes.marking`: the marks of a rule are the marks of the form it recognises;
* `recognizes_asteriskEmphasis` and the others: which form that is.
-/

namespace LiteralMarkdown

open Pattern Cursor

/-- A match lies where it was found, and behind it lies what lies behind its end. -/
theorem Match.Encloses.rest_eq {p : Pattern} {c e : Cursor} {arity : Arity} {d : Char} {n k : Nat}
    {body : List Char} (h : (c.matchTo e).Encloses arity d n k body) (he : e ∈ p.ends c) :
    c.rest = List.replicate n d ++ (body ++ (List.replicate k d ++ e.rest)) := by
  have hrest := (reaches_text_matchTo he).rest
  rw [h.text] at hrest
  rw [hrest]
  simp

namespace EscapeRule

/-- The pattern of the rule matches just the entities of the form, the one with most opening
delimiters by preference. -/
structure Recognizes (rule : EscapeRule) (form : Form) : Prop where
  sound : ∀ {c e : Cursor}, c.captured = [] → e ∈ rule.pattern.ends c → ∃ n body k,
    form.Entity n body k e.rest ∧ (c.matchTo e).Encloses rule.arity form.delimiter n k body
  complete : ∀ {c : Cursor} {n k : Nat} {body behind : List Char}, c.captured = [] →
    form.At c.rest n body k behind →
    ∃ e ∈ rule.pattern.ends c, (c.matchTo e).opening = List.replicate n form.delimiter
  preferred : ∀ {c : Cursor}, c.captured = [] → (rule.pattern.ends c).Pairwise fun e e' =>
    (c.matchTo e').opening.length ≤ (c.matchTo e).opening.length

namespace Recognizes

variable {rule : EscapeRule} {form : Form}

theorem exists_at (h : rule.Recognizes form) {c e : Cursor} (hc : c.captured = [])
    (he : e ∈ rule.pattern.ends c) : ∃ n body k, form.At c.rest n body k e.rest ∧
      (c.matchTo e).Encloses rule.arity form.delimiter n k body := by
  rcases h.sound hc he with ⟨n, body, k, hentity, hencloses⟩
  exact ⟨n, body, k, ⟨hencloses.rest_eq he, hentity⟩, hencloses⟩

/-- A match gets further, for it has an opening delimiter. -/
theorem position_lt (h : rule.Recognizes form) {c e : Cursor} (hc : c.captured = [])
    (he : e ∈ rule.pattern.ends c) : c.position < e.position := by
  rcases h.sound hc he with ⟨n, body, k, hentity, hencloses⟩
  have hopens := form.opens hentity
  have hpos := (reaches_text_matchTo he).position
  rw [hencloses.text, List.length_append, List.length_replicate] at hpos
  omega

theorem absent (h : rule.Recognizes form) {c : Cursor} (hc : c.captured = [])
    (hnone : rule.pattern.onward? c = none) : form.Absent c.rest := by
  intro n body k behind hat
  rcases h.complete hc hat with ⟨e, he, -⟩
  have hle := onward?_eq_none_iff.1 hnone e he
  have hlt := h.position_lt hc he
  omega

/-- No entity at the place of the preferred match has more opening delimiters. -/
theorem most (h : rule.Recognizes form) {c e : Cursor} (hc : c.captured = [])
    (he : rule.pattern.onward? c = some e) {n n' k k' : Nat} {body body' behind' : List Char}
    (hencloses : (c.matchTo e).Encloses rule.arity form.delimiter n k body)
    (hat : form.At c.rest n' body' k' behind') : n' ≤ n := by
  rcases h.complete hc hat with ⟨e', he', hopening'⟩
  have hlen := congrArg List.length hencloses.opening
  have hlen' := congrArg List.length hopening'
  rw [List.length_replicate] at hlen hlen'
  have hfurther := decide_eq_true (h.position_lt hc he')
  rcases eq_or_of_find?_eq_some (h.preferred hc) he he' hfurther with rfl | hle
  · omega
  · omega

theorem marking_of_run (h : rule.Recognizes form) {c : Cursor} {pieces : List Piece}
    (hrun : rule.pattern.Run c pieces) (hc : c.captured = []) :
    form.Marking c.rest (pieces.flatMap (Piece.marks rule.arity)) := by
  induction hrun with
  | stop hrest =>
    rw [hrest]
    exact .stop
  | touch he hpos next ih =>
    -- No match of the rule is empty.
    have hlt := h.position_lt hc he
    omega
  | @skip c x rest pieces hrest hnone next ih =>
    have habsent := h.absent hc hnone
    have hnext := ih hc
    rw [after_rest hrest] at hnext
    rw [hrest] at habsent ⊢
    exact .skip habsent hnext
  | @take c e pieces he next ih =>
    rcases h.exists_at hc (mem_ends_of_onward? he) with ⟨n, body, k, hat, hencloses⟩
    rcases reaches_of_onward? he with ⟨hreach, -⟩
    have hnext := ih hc
    rw [after_rest hreach.rest] at hnext
    rw [List.flatMap_cons, Piece.marks, hencloses.marks_eq]
    exact .take hat (fun _ _ _ _ hat' => h.most hc he hencloses hat') hnext

/-- The marks of a rule are those of the form that it recognises. -/
theorem marking (h : rule.Recognizes form) (text : List Char) :
    form.Marking text (rule.marks text) :=
  h.marking_of_run (rule.pattern.run_scan text) rfl

end Recognizes

/-! ## Paired delimiters -/

/-- The content of a paired rule, which may be empty if the rule is `hollow`. -/
def content (hollow : Bool) : Pattern → Pattern := cond hollow zeroOrMore oneOrMore

theorem accepts_content (hollow : Bool) (d : Char) :
    (content hollow (.chars (.noneOf [d]))).Accepts
      (wordsWhere fun x => d ∉ x ∧ (x = [] → hollow = true)) := by
  have hnone (x : List Char) : d ∉ x ↔ ∀ a ∈ x, (CharSet.noneOf [d]).has a = true := by
    simp only [CharSet.has_noneOf]
    constructor
    · rintro h a ha rfl
      exact h ha
    · intro h hmem
      exact h d hmem rfl
  cases hollow with
  | true =>
    refine (accepts_zeroOrMore_chars _).of_iff fun x => ?_
    rw [hnone]
    exact ⟨fun h => h.1, fun h => ⟨h, fun _ => rfl⟩⟩
  | false =>
    refine (accepts_oneOrMore_chars _).of_iff fun x => ?_
    rw [hnone]
    exact ⟨fun h => ⟨fun hnil => Bool.false_ne_true (h.2 hnil), h.1⟩,
      fun h => ⟨h.2, fun hnil => absurd hnil h.1⟩⟩

/-- Where a body stands between two runs, a paired rule has a match that opens with the run. -/
theorem exists_mem_ends_paired {d : Char} {least n : Nat} {content : Pattern → Pattern}
    {K : Language Char} (hK : (content (.chars (.noneOf [d]))).Accepts K) {c : Cursor}
    {body behind : List Char} (hn : least ≤ n) (hbody : body ∈ K)
    (hrest : c.rest = List.replicate n d ++ (body ++ (List.replicate n d ++ behind))) :
    ∃ e ∈ (paired d least content).ends c,
      (c.matchTo e).opening = List.replicate n d := by
  -- The places behind the first run, behind the body and behind the second run.
  let c₁ := c.keep opening (c.after (List.replicate n d))
  let c₂ := c₁.after body
  let c₃ := c₂.after (List.replicate n d)
  have hrun : List.replicate n d <+: c.rest := ⟨_, hrest.symm⟩
  have hrest₁ : c₁.rest = body ++ (List.replicate n d ++ behind) := after_rest hrest
  have hrest₂ : c₂.rest = List.replicate n d ++ behind := after_rest hrest₁
  have h₁ : c₁ ∈ (Pattern.group opening (.atLeast least .greedy (.char d))).ends c :=
    mem_ends_group.2 ⟨_, (accepts_atLeast_char least .greedy d c _).2 ⟨_, ⟨n, hn, rfl⟩, hrun, rfl⟩,
      rfl⟩
  have h₂ : c₂ ∈ (content (.chars (.noneOf [d]))).ends c₁ :=
    (hK c₁ c₂).2 ⟨body, hbody, ⟨_, hrest₁.symm⟩, rfl⟩
  -- The first group has kept the run, so the second one can repeat it.
  have hkept : c₂.captured.lookup opening = some ⟨c.rest, c₁.position - c.position⟩ := rfl
  have htext : (Capture.text ⟨c.rest, c₁.position - c.position⟩) = List.replicate n d :=
    (reaches_after hrun).textTo_eq
  have h₃ : c₃ ∈ (Pattern.backref opening).ends c₂ := by
    rw [mem_ends_backref]
    exact ⟨_, hkept, by rw [htext, hrest₂]; exact List.prefix_append .., by rw [htext]⟩
  have he : c₂.keep closing c₃ ∈ (Pattern.group closing (.backref opening)).ends c₂ :=
    mem_ends_group.2 ⟨c₃, h₃, rfl⟩
  refine ⟨c₂.keep closing c₃, mem_ends_append.2 ⟨c₁, h₁, mem_ends_append.2 ⟨c₂, h₂, he⟩⟩, ?_⟩
  exact opening_matchTo rfl htext

theorem pairwise_ends_paired {d : Char} {least : Nat} {content : Pattern → Pattern}
    {K : Language Char} (hK : (content (.chars (.noneOf [d]))).Accepts K) {c : Cursor}
    (hc : c.captured = []) : ((paired d least content).ends c).Pairwise fun e e' =>
      (c.matchTo e').opening.length ≤ (c.matchTo e).opening.length := by
  -- All matches behind one opening run open with that run, and longer runs come first.
  have hlen : ∀ c₁ ∈ (Pattern.group opening (.atLeast least .greedy (.char d))).ends c,
      ∀ e ∈ (content (.chars (.noneOf [d])) ++ .group closing (.backref opening)).ends c₁,
        c₁.position = c.position + (c.matchTo e).opening.length := by
    intro c₁ h₁ e he
    rcases exists_encloses_of_opening hK hc h₁ he with ⟨n, body, -, -, hposition, hencloses⟩
    rw [hencloses.opening, List.length_replicate, hposition]
  have hruns : ((Pattern.group opening (.atLeast least .greedy (.char d))).ends c).Pairwise
      fun c₁ c₁' => c₁'.position ≤ c₁.position :=
    List.pairwise_map.2 (pairwise_ends_atLeast_greedy (.only d) least c)
  refine List.pairwise_flatMap.2 ⟨fun c₁ h₁ => ?_, ?_⟩
  · refine List.pairwise_of_forall_mem_list fun e he e' he' => ?_
    have := hlen c₁ h₁ e he
    have := hlen c₁ h₁ e' he'
    omega
  · refine List.Pairwise.imp_of_mem (fun {c₁ c₁'} h₁ h₁' hle e he e' he' => ?_) hruns
    have := hlen c₁ h₁ e he
    have := hlen c₁' h₁' e' he'
    omega

theorem recognizes_paired {rule : EscapeRule} {d : Char} {least : Nat} {hollow : Bool}
    (hpattern : rule.pattern = paired d least (content hollow)) (harity : rule.arity = .surrounding)
    (hleast : 0 < least) : rule.Recognizes (.paired d least hollow hleast) := by
  have hK := accepts_content hollow d
  refine ⟨?_, ?_, ?_⟩
  · intro c e hc he
    rw [hpattern] at he
    rcases exists_encloses_paired hK hc he with ⟨n, body, hn, ⟨hnone, hempty⟩, hencloses⟩
    rw [harity]
    exact ⟨n, body, n, ⟨hn, rfl, hnone, hempty⟩, hencloses⟩
  · rintro c n k body behind - ⟨hrest, hn, rfl, hnone, hempty⟩
    rw [hpattern]
    exact exists_mem_ends_paired hK hn ⟨hnone, hempty⟩ hrest
  · intro c hc
    rw [hpattern]
    exact pairwise_ends_paired hK hc

theorem recognizes_asteriskEmphasis :
    asteriskEmphasis.Recognizes (.paired '*' 1 false Nat.one_pos) := recognizes_paired rfl rfl _

theorem recognizes_underscoreStrong :
    underscoreStrong.Recognizes (.paired '_' 2 false Nat.two_pos) := recognizes_paired rfl rfl _

theorem recognizes_tildeStrikethrough :
    tildeStrikethrough.Recognizes (.paired '~' 1 false Nat.one_pos) := recognizes_paired rfl rfl _

theorem recognizes_backtickCode :
    backtickCode.Recognizes (.paired '\x60' 1 true Nat.one_pos) := recognizes_paired rfl rfl _

/-! ## Underscores at the end of a word, and brackets -/

/-- All matches at one place are equal in their opening delimiters if there is just one of these. -/
theorem pairwise_of_single {rule : EscapeRule} {d : Char} {c : Cursor}
    (h : ∀ e ∈ rule.pattern.ends c, ∃ k body, (c.matchTo e).Encloses rule.arity d 1 k body) :
    (rule.pattern.ends c).Pairwise fun e e' =>
      (c.matchTo e').opening.length ≤ (c.matchTo e).opening.length := by
  refine List.pairwise_of_forall_mem_list fun e he e' he' => ?_
  rcases h e he with ⟨k, body, hencloses⟩
  rcases h e' he' with ⟨k', body', hencloses'⟩
  rw [hencloses.opening, hencloses'.opening]

theorem recognizes_underscoreEmphasis : underscoreEmphasis.Recognizes .underscored := by
  refine ⟨?_, ?_, ?_⟩
  · intro c e hc he
    rcases exists_encloses_underscoreEmphasis hc he with ⟨body, hne, hnone, hencloses, hword⟩
    exact ⟨1, body, 1, ⟨rfl, rfl, hne, hnone, hword⟩, hencloses⟩
  · rintro c n k body behind - ⟨hrest, rfl, rfl, hne, hnone, hword⟩
    -- The places behind the first underscore, behind the body and behind the second one.
    let c₁ := c.keep opening (c.after ['_'])
    let c₂ := c₁.after body
    let c₃ := c₂.keep closing (c₂.after ['_'])
    have hrun : ['_'] <+: c.rest := ⟨_, hrest.symm⟩
    have hrest₁ : c₁.rest = body ++ (['_'] ++ behind) := after_rest hrest
    have hrest₂ : c₂.rest = ['_'] ++ behind := after_rest hrest₁
    have hrest₃ : c₃.rest = behind := after_rest hrest₂
    have h₁ : c₁ ∈ (Pattern.group opening (.char '_')).ends c :=
      mem_ends_group.2 ⟨_, (accepts_char_only '_' c _).2 ⟨_, rfl, hrun, rfl⟩, rfl⟩
    have h₂ : c₂ ∈ (oneOrMore (.chars (.noneOf ['_']))).ends c₁ :=
      (accepts_content false '_' c₁ c₂).2
        ⟨body, ⟨hnone, fun hnil => absurd hnil hne⟩, ⟨_, hrest₁.symm⟩, rfl⟩
    have h₃ : c₃ ∈ (Pattern.group closing (.char '_')).ends c₂ :=
      mem_ends_group.2 ⟨_, (accepts_char_only '_' c₂ _).2 ⟨_, rfl, ⟨_, hrest₂.symm⟩, rfl⟩, rfl⟩
    -- An underscore is a word character, so the word ends where none follows.
    have hboundary : c₃.atWordBoundary = true := by
      have hprevious : c₃.previous = some '_' := rfl
      have hunderscore : Text.isWord '_' = true := by decide
      simp [atWordBoundary, hprevious, hrest₃, hunderscore, hword]
    have h₄ : c₃ ∈ Pattern.wordBoundary.ends c₃ := mem_ends_wordBoundary.2 ⟨hboundary, rfl⟩
    refine ⟨c₃, mem_ends_append.2 ⟨c₁, h₁, mem_ends_append.2 ⟨c₂, h₂,
      mem_ends_append.2 ⟨c₃, h₃, h₄⟩⟩⟩, ?_⟩
    exact opening_matchTo rfl (reaches_after hrun).textTo_eq
  · intro c hc
    refine pairwise_of_single (d := '_') fun e he => ?_
    rcases exists_encloses_underscoreEmphasis hc he with ⟨body, -, -, hencloses, -⟩
    exact ⟨1, body, hencloses⟩

theorem recognizes_bracketLink : bracketLink.Recognizes .bracketed := by
  refine ⟨?_, ?_, ?_⟩
  · intro c e _ he
    rcases exists_encloses_bracketLink he with ⟨body, hcaret, hclose, hencloses⟩
    exact ⟨1, body, 0, ⟨rfl, rfl, hcaret, hclose⟩, hencloses⟩
  · rintro c n k body behind - ⟨hrest, rfl, rfl, hcaret, hclose⟩
    let c₁ := c.keep opening (c.after ['['])
    have hrun : ['['] <+: c.rest := ⟨_, hrest.symm⟩
    have hrest₁ : c₁.rest = body ++ behind := after_rest hrest
    have h₁ : c₁ ∈ (Pattern.group opening (.char '[')).ends c :=
      mem_ends_group.2 ⟨_, (accepts_char_only '[' c _).2 ⟨_, rfl, hrun, rfl⟩, rfl⟩
    have h₂ : c₁ ∈ (Pattern.notAhead (.char '^')).ends c₁ := by
      rw [mem_ends_notAhead, ends_char_eq_nil_iff, hrest₁]
      rcases hclose with ⟨inner, rfl, -⟩
      refine ⟨?_, rfl⟩
      rw [List.head?_append]
      intro hhead
      cases inner with
      | nil => exact absurd (Option.some.inj hhead) (by decide)
      | cons a inner => exact hcaret hhead
    have h₃ : c₁.after body ∈ (zeroOrMore (.chars (.noneOf [']'])) ++ .char ']').ends c₁ :=
      (accepts_bracketBody c₁ _).2 ⟨body, hclose, ⟨_, hrest₁.symm⟩, rfl⟩
    refine ⟨c₁.after body, mem_ends_append.2 ⟨c₁, h₁, mem_ends_append.2 ⟨c₁, h₂, h₃⟩⟩, ?_⟩
    exact opening_matchTo rfl (reaches_after hrun).textTo_eq
  · intro c _
    refine pairwise_of_single (d := '[') fun e he => ?_
    rcases exists_encloses_bracketLink he with ⟨body, -, -, hencloses⟩
    exact ⟨0, body, hencloses⟩

end EscapeRule

end LiteralMarkdown
