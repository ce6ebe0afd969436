import LiteralMarkdown.Proofs.Protection.Spans

/-!
# The grammar of protected HTML

At each place of a text the pattern for protected HTML matches what its grammar says. An opening tag
is a bracket, a name and a tag end, which is any number of attributes, blanks and the closing
bracket. It may be possible to tell the name from the first attribute in several ways, for there
need be no blanks between them; but the tag ends in one place. A tag is protected up to there,
unless the name of a preformatted element comes first and a word ends behind it. Otherwise a
preformatted element is protected, up to the first closing tag of its name.

* `OpeningAhead.unique`: the opening tags that can be told at a place are one;
* `span_iff`: what is protected at a place, said by the grammar;
* `matchAt?_pattern`: the pattern matches at a place just where the grammar has a tag or a
  preformatted element, and takes what is protected there.
-/

namespace LiteralMarkdown.Protection

open Pattern Cursor

/-! ## What lies ahead -/

/-- The text begins with an opening tag, of an element of any kind. -/
def OpeningAhead (rest tag : List Char) : Prop :=
  ∃ name tail more, name ≠ [] ∧ (∀ a ∈ name, Text.isWord a = true) ∧ TagEnd tail ∧
    tag = '<' :: (name ++ tail) ∧ rest = tag ++ more

/-- The text begins with a bracket and the name of a preformatted element, and a word ends there. -/
def PreformattedAhead (rest : List Char) : Prop :=
  ∃ name ∈ preformattedNames, ∃ more, rest = '<' :: (name ++ more) ∧
    more.head?.any Text.isWord = false

/-- The text begins with an opening tag, and no preformatted element is named there. -/
def TagAhead (rest tag : List Char) : Prop := OpeningAhead rest tag ∧ ¬ PreformattedAhead rest

/-- The text begins with a preformatted element: its name, the end of its opening tag, its body, its
closing tag, and what lies behind. -/
def BlockAhead (rest name tail body more : List Char) : Prop :=
  name ∈ preformattedNames ∧ TagEnd tail ∧
    rest = '<' :: (name ++ (tail ++ (body ++ (closingTag name ++ more))))

/-- The body ends where the first closing tag of the name begins. -/
def EndsFirst (name body more : List Char) : Prop :=
  ∀ body' more', body ++ (closingTag name ++ more) = body' ++ (closingTag name ++ more') →
    body.length ≤ body'.length

/-! ## Tags -/

/-- The opening tags that can be told at a place are one. -/
theorem OpeningAhead.unique {rest tag tag' : List Char} (h : OpeningAhead rest tag)
    (h' : OpeningAhead rest tag') : tag = tag' := by
  rcases h with ⟨name, tail, more, -, hname, htail, rfl, hrest⟩
  rcases h' with ⟨name', tail', more', -, hname', htail', rfl, hrest'⟩
  have hsame : name ++ (tail ++ more) = name' ++ (tail' ++ more') := by
    rw [hrest] at hrest'
    simpa using hrest'
  rw [(tagEnd_unique hname hname' htail htail' hsame).1]

theorem preformattedAhead_cons_iff {rest : List Char} :
    PreformattedAhead ('<' :: rest) ↔ OpensPreformatted rest := by
  rw [opensPreformatted_iff, PreformattedAhead]
  constructor
  · rintro ⟨name, hname, more, hrest, hword⟩
    exact ⟨name, hname, more, (List.cons.inj hrest).2, hword⟩
  · rintro ⟨name, hname, more, rfl, hword⟩
    exact ⟨name, hname, more, rfl, hword⟩

theorem tagAhead_iff {rest tag : List Char} : TagAhead rest tag ↔ tag <+: rest ∧ IsTag tag := by
  -- The lookahead sees the text behind the tag as well, but that makes no difference.
  have hlook (name tail more : List Char) (htail : TagEnd tail) :
      PreformattedAhead ('<' :: (name ++ tail) ++ more) ↔ OpensPreformatted (name ++ tail) := by
    rw [List.cons_append, preformattedAhead_cons_iff, htail.opensPreformatted_append_iff]
  constructor
  · rintro ⟨⟨name, tail, more, hne, hname, htail, rfl, rfl⟩, hnone⟩
    rw [hlook name tail more htail] at hnone
    exact ⟨List.prefix_append .., name, tail, hne, hname, htail, hnone, rfl⟩
  · rintro ⟨⟨more, rfl⟩, name, tail, hne, hname, htail, hnone, rfl⟩
    rw [← hlook name tail more htail] at hnone
    exact ⟨⟨name, tail, more, hne, hname, htail, rfl, rfl⟩, hnone⟩

/-! ## Preformatted elements -/

/-- The text of a preformatted element. -/
def blockText (name tail body : List Char) : List Char :=
  '<' :: (name ++ (tail ++ (body ++ closingTag name)))

theorem blockText_append (name tail body more : List Char) :
    blockText name tail body ++ more =
      '<' :: (name ++ (tail ++ (body ++ (closingTag name ++ more)))) := by
  simp [blockText]

theorem BlockAhead.isBlock {rest name tail body more : List Char}
    (h : BlockAhead rest name tail body more) :
    blockText name tail body <+: rest ∧ IsBlock (blockText name tail body) := by
  rcases h with ⟨hname, htail, rfl⟩
  rw [← blockText_append]
  exact ⟨List.prefix_append .., name, hname, tail, body, htail, rfl⟩

theorem exists_blockAhead_of_isBlock {rest x : List Char} (hpre : x <+: rest) (hx : IsBlock x) :
    ∃ name tail body more, BlockAhead rest name tail body more ∧ x = blockText name tail body := by
  rcases hx with ⟨name, hname, tail, body, htail, rfl⟩
  rcases hpre with ⟨more, rfl⟩
  exact ⟨name, tail, body, more, ⟨hname, htail, blockText_append name tail body more⟩, rfl⟩

/-- Two preformatted elements at one place differ in their bodies only. -/
theorem BlockAhead.unique {rest name name' tail tail' body body' more more' : List Char}
    (h : BlockAhead rest name tail body more) (h' : BlockAhead rest name' tail' body' more') :
    name = name' ∧ tail = tail' ∧
      body ++ (closingTag name ++ more) = body' ++ (closingTag name' ++ more') := by
  rcases h with ⟨hname, htail, hrest⟩
  rcases h' with ⟨hname', htail', hrest'⟩
  rw [hrest] at hrest'
  exact blockOpening_unique hname hname' htail htail' (List.cons.inj hrest').2

/-- An element is the shortest one at its place just if its body ends first. -/
theorem BlockAhead.shortest_iff {rest name tail body more : List Char}
    (h : BlockAhead rest name tail body more) :
    (∀ y, y <+: rest → IsBlock y → (blockText name tail body).length ≤ y.length) ↔
      EndsFirst name body more := by
  have hlength (other : List Char) : (blockText name tail body).length ≤
      (blockText name tail other).length ↔ body.length ≤ other.length := by
    simp [blockText]
  constructor
  · intro hshort body' more' hsame
    have hother : BlockAhead rest name tail body' more' := ⟨h.1, h.2.1, hsame ▸ h.2.2⟩
    exact (hlength body').1 (hshort _ hother.isBlock.1 hother.isBlock.2)
  · intro hfirst y hpre hy
    rcases exists_blockAhead_of_isBlock hpre hy with ⟨name', tail', body', more', hother, rfl⟩
    rcases h.unique hother with ⟨rfl, rfl, hsame⟩
    exact (hlength body').2 (hfirst body' more' hsame)

/-! ## What is protected -/

/-- What is protected at a place is the tag there, or else the preformatted element there up to its
first closing tag. -/
theorem span_iff {rest x : List Char} :
    Span rest x ↔ TagAhead rest x ∨ (∀ tag, ¬ TagAhead rest tag) ∧
      ∃ name tail body more, BlockAhead rest name tail body more ∧ EndsFirst name body more ∧
        x = blockText name tail body := by
  have hnone : (∀ y, y <+: rest → ¬ IsTag y) ↔ ∀ tag, ¬ TagAhead rest tag := by
    refine forall_congr' fun tag => ?_
    rw [tagAhead_iff, not_and]
  rw [Span, tagAhead_iff, and_or_left, hnone]
  refine or_congr Iff.rfl ?_
  constructor
  · rintro ⟨hpre, htags, hblock, hshort⟩
    rcases exists_blockAhead_of_isBlock hpre hblock with ⟨name, tail, body, more, hahead, rfl⟩
    exact ⟨htags, name, tail, body, more, hahead, hahead.shortest_iff.1 hshort, rfl⟩
  · rintro ⟨htags, name, tail, body, more, hahead, hfirst, rfl⟩
    exact ⟨hahead.isBlock.1, htags, hahead.isBlock.2, hahead.shortest_iff.2 hfirst⟩

theorem opens_iff {rest : List Char} :
    Opens rest ↔ (∃ tag, TagAhead rest tag) ∨
      ∃ name tail body more, BlockAhead rest name tail body more := by
  constructor
  · rintro ⟨x, hpre, htag | hblock⟩
    · exact Or.inl ⟨x, tagAhead_iff.2 ⟨hpre, htag⟩⟩
    · rcases exists_blockAhead_of_isBlock hpre hblock with ⟨name, tail, body, more, hahead, -⟩
      exact Or.inr ⟨name, tail, body, more, hahead⟩
  · rintro (⟨tag, htag⟩ | ⟨name, tail, body, more, hahead⟩)
    · exact ⟨tag, (tagAhead_iff.1 htag).1, Or.inl (tagAhead_iff.1 htag).2⟩
    · exact ⟨_, hahead.isBlock.1, Or.inr hahead.isBlock.2⟩

/-! ## The pattern -/

/-- No match of the pattern is empty. -/
theorem position_lt_of_mem_ends {c e : Cursor} (he : e ∈ pattern.ends c) :
    c.position < e.position := by
  have hreach : ∃ x, x ≠ [] ∧ c.Reaches x e := by
    rcases List.mem_append.1 he with he | he
    · rcases accepts_htmlTag.exists_reaches he with ⟨x, ⟨name, tail, -, -, -, -, rfl⟩, hx, -⟩
      exact ⟨_, List.cons_ne_nil _ _, hx⟩
    · rcases exists_isBlock_of_mem_ends he with ⟨x, ⟨name, -, tail, body, -, rfl⟩, hx⟩
      exact ⟨_, List.cons_ne_nil _ _, hx⟩
  rcases hreach with ⟨x, hne, hx⟩
  have hlen := List.length_pos_iff.2 hne
  have hpos := hx.position
  omega

/-- What the pattern takes at a place is protected there. -/
theorem text_matchAt?_eq_some_iff {c : Cursor} {x : List Char} :
    (pattern.matchAt? c).map Match.text = some x ↔ Span c.rest x := by
  rw [matchAt?_eq_onward? fun e => position_lt_of_mem_ends]
  cases honward : pattern.onward? c with
  | none =>
    have hnone := not_opens_of_onward?_eq_none honward
    constructor
    · intro h
      cases h
    · intro hspan
      exact absurd hspan.opens hnone
  | some e =>
    have hspan := span_of_onward? honward
    constructor
    · intro h
      rw [← Option.some.inj h]
      exact hspan
    · intro hx
      exact congrArg some (hspan.unique hx)

theorem isSome_matchAt?_iff {c : Cursor} :
    (pattern.matchAt? c).isSome = true ↔ Opens c.rest := by
  rw [matchAt?_eq_onward? fun e => position_lt_of_mem_ends]
  cases honward : pattern.onward? c with
  | none => simpa using not_opens_of_onward?_eq_none honward
  | some e => simpa using (span_of_onward? honward).opens

/-- At each place of a text, the pattern matches just if a tag or a preformatted element lies ahead.
All opening tags that can be told there are one. The pattern takes this tag, even if a preformatted
element lies there as well; and if there is no such tag it takes the element up to its first closing
tag. -/
theorem matchAt?_pattern (text : List Char) (index : Nat) :
    ((pattern.matchAt? (atIndex text index)).isSome = true ↔
      (∃ tag, TagAhead (text.drop index) tag) ∨
        ∃ name tail body more, BlockAhead (text.drop index) name tail body more) ∧
    (∀ tag tag', OpeningAhead (text.drop index) tag → OpeningAhead (text.drop index) tag' →
      tag = tag') ∧
    (∀ m, pattern.matchAt? (atIndex text index) = some m → m.start = index) ∧
    ∀ x, (pattern.matchAt? (atIndex text index)).map Match.text = some x ↔
      TagAhead (text.drop index) x ∨ (∀ tag, ¬ TagAhead (text.drop index) tag) ∧
        ∃ name tail body more, BlockAhead (text.drop index) name tail body more ∧
          EndsFirst name body more ∧ x = blockText name tail body := by
  have hrest := rest_atIndex text index
  refine ⟨?_, fun tag tag' h h' => h.unique h', ?_, fun x => ?_⟩
  · rw [isSome_matchAt?_iff, hrest, opens_iff]
  · intro m hm
    -- Something lies ahead, so the text has that many characters.
    have hopens := isSome_matchAt?_iff.1 (Option.isSome_iff_exists.2 ⟨m, hm⟩)
    rcases hopens.exists_cons with ⟨r, hr⟩
    have hlen := congrArg List.length (hrest.symm.trans hr)
    rw [List.length_drop, List.length_cons] at hlen
    rw [matchAt?_eq_onward? fun e => position_lt_of_mem_ends] at hm
    rcases Option.map_eq_some_iff.1 hm with ⟨e, -, rfl⟩
    show 0 + (text.take index).length = index
    rw [List.length_take]
    omega
  · rw [text_matchAt?_eq_some_iff, hrest, span_iff]

-- No word ends behind the name, so this is a tag, though a preformatted element lies there as well.
example : (pattern.matchAt? (atIndex "<prea=\x221\x22>*</pre>".toList 0)).map Match.text =
    some "<prea=\x221\x22>".toList := by
  decide

end LiteralMarkdown.Protection
