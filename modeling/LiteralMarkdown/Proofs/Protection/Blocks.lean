import LiteralMarkdown.Proofs.Pattern.Run
import LiteralMarkdown.Proofs.Protection.Tags

/-!
# Preformatted blocks

What the pattern for preformatted blocks matches, said without the pattern. Of all the blocks that
begin at a place the pattern takes the shortest one.

* `exists_isBlock_of_mem_ends` and `exists_mem_ends_of_isBlock`: the pattern matches blocks, and all
  of them;
* `position_le_of_onward?_preformattedBlock`: what it takes is the shortest block.
-/

namespace LiteralMarkdown.Protection

open Pattern Cursor

/-- The closing tag of an element. -/
def closingTag (name : List Char) : List Char := '<' :: '/' :: (name ++ ['>'])

/-- A preformatted element, from its opening tag to a closing tag of the same name. -/
def IsBlock (x : List Char) : Prop :=
  ∃ name ∈ preformattedNames, ∃ tail body, TagEnd tail ∧
    x = '<' :: (name ++ (tail ++ (body ++ closingTag name)))

/-! ## The parts of the pattern -/

/-- The opening tag of a preformatted element, its name kept. -/
def blockOpening : Pattern := sequence ([.char '<', .group tagName preformattedName] ++ tagEnd)

/-- What may stand between the tags of a preformatted element. -/
def blockBody : Pattern := .atLeast 0 .lazy (.chars .any)

/-- The closing tag of the element whose name is kept. -/
def blockClosing : Pattern := sequence [.char '<', .char '/', .backref tagName, .char '>']

/-- The ends of a block whose opening tag ends at the cursor. -/
def blockEnds (o : Cursor) : List Cursor := (blockBody.ends o).flatMap blockClosing.ends

theorem ends_preformattedBlock (c : Cursor) :
    preformattedBlock.ends c = (blockOpening.ends c).flatMap blockEnds := by
  have hparts : preformattedBlock = Pattern.sequence
      (([.char '<', .group tagName preformattedName] ++ tagEnd) ++
        (blockBody :: [.char '<', .char '/', .backref tagName, .char '>'])) := rfl
  rw [hparts, ends_sequence_append]
  refine List.flatMap_congr fun o _ => ?_
  rw [ends_sequence_cons]
  rfl

/-- The cursor `o` lies behind an opening tag at `c`, and the name of the tag is kept there. -/
structure Opened (c : Cursor) (name tail : List Char) (o : Cursor) : Prop where
  reaches : c.Reaches ('<' :: (name ++ tail)) o
  kept : ∃ kept, o.captured.lookup tagName = some kept ∧ kept.text = name

theorem exists_opened_of_mem_ends {c o : Cursor} (ho : o ∈ blockOpening.ends c) :
    ∃ name ∈ preformattedNames, ∃ tail, TagEnd tail ∧ Opened c name tail o := by
  rcases mem_ends_append.1 ho with ⟨d, hd, ho⟩
  rcases (accepts_char_only '<' c d).1 hd with ⟨_, rfl, hopen, rfl⟩
  rcases mem_ends_append.1 ho with ⟨d, hd, ho⟩
  rcases exists_reaches_of_mem_ends_group hd with ⟨e, he, hgroup⟩
  rcases accepts_preformattedName.exists_reaches he with ⟨name, hname, hreach, -⟩
  rcases hgroup name hreach with ⟨hd, kept, hkept, htext⟩
  rcases accepts_tagEnd.exists_reaches ho with ⟨tail, htail, hend, hsame⟩
  refine ⟨name, hname, tail, htail, (reaches_after hopen).trans (hd.trans hend), kept, ?_, htext⟩
  rw [hsame, hkept]
  rfl

theorem exists_mem_ends_blockOpening {c : Cursor} {name tail : List Char}
    (hname : name ∈ preformattedNames) (htail : TagEnd tail)
    (hpre : '<' :: (name ++ tail) <+: c.rest) :
    ∃ o ∈ blockOpening.ends c, Opened c name tail o := by
  have hsplit : '<' :: (name ++ tail) = ['<'] ++ (name ++ tail) := rfl
  rw [hsplit, append_prefix_rest_iff, append_prefix_rest_iff] at hpre
  rcases hpre with ⟨hopen, hprename, hpretail⟩
  have hreach := reaches_after hprename
  have hkept := hreach.keep (c.after ['<']) tagName
  -- Keeping the name does not change what lies ahead.
  have hahead : tail <+: ((c.after ['<']).keep tagName ((c.after ['<']).after name)).rest :=
    hpretail
  have hend := reaches_after hahead
  refine ⟨_, mem_ends_append.2 ⟨_, (accepts_char_only '<' c _).2 ⟨_, rfl, hopen, rfl⟩,
    mem_ends_append.2 ⟨_, mem_ends_group.2 ⟨_, (accepts_preformattedName _ _).2
      ⟨name, hname, hprename, rfl⟩, rfl⟩, (accepts_tagEnd _ _).2 ⟨tail, htail, hahead, rfl⟩⟩⟩,
    (reaches_after hopen).trans (hkept.trans hend), _, rfl, hreach.textTo_eq⟩

theorem mem_ends_blockClosing {d e : Cursor} {kept : Capture}
    (hkept : d.captured.lookup tagName = some kept) :
    e ∈ blockClosing.ends d ↔
      closingTag kept.text <+: d.rest ∧ e = d.after (closingTag kept.text) := by
  have hsplit : closingTag kept.text = ['<'] ++ (['/'] ++ (kept.text ++ ['>'])) := rfl
  rw [hsplit]
  simp only [append_prefix_rest_iff, after_append]
  constructor
  · intro he
    rcases mem_ends_append.1 he with ⟨d₁, h₁, he⟩
    rcases (accepts_char_only '<' d d₁).1 h₁ with ⟨_, rfl, hp₁, rfl⟩
    rcases mem_ends_append.1 he with ⟨d₂, h₂, he⟩
    rcases (accepts_char_only '/' _ d₂).1 h₂ with ⟨_, rfl, hp₂, rfl⟩
    rcases mem_ends_append.1 he with ⟨d₃, h₃, he⟩
    rcases mem_ends_backref.1 h₃ with ⟨other, hother, hp₃, rfl⟩
    rcases (accepts_char_only '>' _ e).1 he with ⟨_, rfl, hp₄, rfl⟩
    obtain rfl : other = kept := Option.some.inj (hother.symm.trans hkept)
    exact ⟨⟨hp₁, hp₂, hp₃, hp₄⟩, rfl⟩
  · rintro ⟨⟨hp₁, hp₂, hp₃, hp₄⟩, rfl⟩
    exact mem_ends_append.2 ⟨_, (accepts_char_only '<' _ _).2 ⟨_, rfl, hp₁, rfl⟩,
      mem_ends_append.2 ⟨_, (accepts_char_only '/' _ _).2 ⟨_, rfl, hp₂, rfl⟩,
        mem_ends_append.2 ⟨_, mem_ends_backref.2 ⟨kept, hkept, hp₃, rfl⟩,
          (accepts_char_only '>' _ _).2 ⟨_, rfl, hp₄, rfl⟩⟩⟩⟩

/-! ## Blocks -/

theorem mem_ends_blockBody {o d : Cursor} :
    d ∈ blockBody.ends o ↔ ∃ body, body <+: o.rest ∧ d = o.after body := by
  have hbody := (accepts_chars .any).atLeast 0 .lazy
  rw [blockBody, hbody o d]
  constructor
  · rintro ⟨body, -, h⟩
    exact ⟨body, h⟩
  · rintro ⟨body, h⟩
    refine ⟨body, ?_, h⟩
    rw [pow_zero, one_mul, CharSet.mem_words_kstar]
    intro a _
    rfl

theorem mem_blockEnds {c o e : Cursor} {name tail : List Char} (ho : Opened c name tail o) :
    e ∈ blockEnds o ↔ ∃ body, body ++ closingTag name <+: o.rest ∧
      e = o.after (body ++ closingTag name) := by
  rcases ho.kept with ⟨kept, hkept, rfl⟩
  rw [blockEnds, List.mem_flatMap]
  constructor
  · rintro ⟨d, hd, he⟩
    rcases mem_ends_blockBody.1 hd with ⟨body, hbody, rfl⟩
    rcases (mem_ends_blockClosing (d := o.after body) hkept).1 he with ⟨hclosing, rfl⟩
    exact ⟨body, append_prefix_rest_iff.2 ⟨hbody, hclosing⟩, (after_append ..).symm⟩
  · rintro ⟨body, hpre, rfl⟩
    rcases append_prefix_rest_iff.1 hpre with ⟨hbody, hclosing⟩
    refine ⟨o.after body, mem_ends_blockBody.2 ⟨body, hbody, rfl⟩, ?_⟩
    rw [after_append]
    exact (mem_ends_blockClosing (d := o.after body) hkept).2 ⟨hclosing, rfl⟩

theorem exists_isBlock_of_mem_ends {c e : Cursor} (he : e ∈ preformattedBlock.ends c) :
    ∃ x, IsBlock x ∧ c.Reaches x e := by
  rw [ends_preformattedBlock] at he
  rcases List.mem_flatMap.1 he with ⟨o, ho, he⟩
  rcases exists_opened_of_mem_ends ho with ⟨name, hname, tail, htail, hopened⟩
  rcases (mem_blockEnds hopened).1 he with ⟨body, hpre, rfl⟩
  have hreach := hopened.reaches.trans (reaches_after hpre)
  have hx : '<' :: (name ++ tail) ++ (body ++ closingTag name) =
      '<' :: (name ++ (tail ++ (body ++ closingTag name))) := by simp
  exact ⟨_, ⟨name, hname, tail, body, htail, rfl⟩, hx ▸ hreach⟩

theorem exists_mem_ends_of_isBlock {c : Cursor} {x : List Char} (hx : IsBlock x)
    (hpre : x <+: c.rest) : ∃ e ∈ preformattedBlock.ends c, c.Reaches x e := by
  rcases hx with ⟨name, hname, tail, body, htail, rfl⟩
  have hsplit : '<' :: (name ++ (tail ++ (body ++ closingTag name))) =
      '<' :: (name ++ tail) ++ (body ++ closingTag name) := by simp
  rw [hsplit] at hpre ⊢
  obtain ⟨o, ho, hopened⟩ :=
    exists_mem_ends_blockOpening hname htail ((List.prefix_append ..).trans hpre)
  have hrest : body ++ closingTag name <+: o.rest := by
    rw [hopened.reaches.rest] at hpre
    exact (List.prefix_append_right_inj _).1 hpre
  refine ⟨o.after (body ++ closingTag name), ?_, hopened.reaches.trans (reaches_after hrest)⟩
  rw [ends_preformattedBlock]
  exact List.mem_flatMap.2 ⟨o, ho, (mem_blockEnds hopened).2 ⟨body, hrest, rfl⟩⟩

/-! ## The shortest block -/

/-- The ends of a block are listed in the order of their places. -/
theorem pairwise_blockEnds {c o : Cursor} {name tail : List Char} (ho : Opened c name tail o) :
    (blockEnds o).Pairwise fun d e => d.position ≤ e.position := by
  rcases ho.kept with ⟨kept, hkept, rfl⟩
  have hbody : (blockBody.ends o).Pairwise fun d e => d.position ≤ e.position := by
    have hends : blockBody.ends o = repeatEnds (Pattern.chars .any).ends .lazy o.rest o :=
      List.append_nil _
    rw [hends]
    exact pairwise_repeatEnds_lazy .any o.rest o
  -- The closing tag adds the same length to every body.
  have hclosing : ∀ d ∈ blockBody.ends o, ∀ e ∈ blockClosing.ends d,
      e.position = d.position + (closingTag kept.text).length := by
    intro d hd e he
    rcases mem_ends_blockBody.1 hd with ⟨body, -, rfl⟩
    rw [((mem_ends_blockClosing (d := o.after body) hkept).1 he).2, after_position]
  refine List.pairwise_flatMap.2 ⟨fun d hd => ?_, ?_⟩
  · refine List.pairwise_of_forall_mem_list fun e he e' he' => ?_
    rw [hclosing d hd e he, hclosing d hd e' he']
  · refine List.Pairwise.imp_of_mem (fun {d d'} hd hd' hle e he e' he' => ?_) hbody
    rw [hclosing d hd e he, hclosing d' hd' e' he']
    omega

/-- Two opening tags of preformatted elements that begin at the same place have the same name and
end at the same place. -/
theorem blockOpening_unique {name name' tail tail' rest rest' : List Char}
    (hname : name ∈ preformattedNames) (hname' : name' ∈ preformattedNames) (htail : TagEnd tail)
    (htail' : TagEnd tail') (h : name ++ (tail ++ rest) = name' ++ (tail' ++ rest')) :
    name = name' ∧ tail = tail' ∧ rest = rest' := by
  have hunique := tagEnd_unique (isWord_of_mem_preformattedNames name hname)
    (isWord_of_mem_preformattedNames name' hname') htail htail' h
  rcases hunique with ⟨hopening, hrest⟩
  -- None of the names begins another one.
  have heq : name = name' := by
    have hp : name <+: name' ++ tail' := hopening ▸ List.prefix_append ..
    rcases List.prefix_or_prefix_of_prefix hp (List.prefix_append name' tail') with h | h
    · exact eq_of_prefix_preformattedNames name hname name' hname' h
    · exact (eq_of_prefix_preformattedNames name' hname' name hname h).symm
  subst heq
  exact ⟨rfl, List.append_cancel_left hopening, hrest⟩

/-- The block that is preferred at a cursor is the shortest one there. All opening tags there are
one, so only the bodies make a difference. -/
theorem position_le_of_onward?_preformattedBlock {c e : Cursor} {x : List Char}
    (he : preformattedBlock.onward? c = some e) (hx : IsBlock x) (hpre : x <+: c.rest) :
    e.position ≤ c.position + x.length := by
  rw [onward?, ends_preformattedBlock, List.find?_flatMap] at he
  rcases List.exists_of_findSome?_eq_some he with ⟨o, ho, he⟩
  rcases exists_opened_of_mem_ends ho with ⟨name, hname, tail, htail, hopened⟩
  rcases hx with ⟨name', hname', tail', body, htail', rfl⟩
  rcases hpre with ⟨r, hr⟩
  have hsame : name ++ (tail ++ o.rest) = name' ++ (tail' ++ (body ++ closingTag name' ++ r)) := by
    have := hopened.reaches.rest
    rw [← hr] at this
    simpa using this.symm
  rcases blockOpening_unique hname hname' htail htail' hsame with ⟨rfl, rfl, hrest⟩
  have hmem : o.after (body ++ closingTag name) ∈ blockEnds o :=
    (mem_blockEnds hopened).2 ⟨body, ⟨r, hrest.symm⟩, rfl⟩
  have hend : (o.after (body ++ closingTag name)).position =
      c.position + ('<' :: (name ++ (tail ++ (body ++ closingTag name)))).length := by
    rw [after_position, hopened.reaches.position]
    simp only [List.length_append, List.length_cons]
    omega
  have hfurther : c.position < (o.after (body ++ closingTag name)).position := by
    rw [hend, List.length_cons]
    omega
  rw [← hend]
  rcases eq_or_of_find?_eq_some (pairwise_blockEnds hopened) he hmem (decide_eq_true hfurther)
    with h | h
  · exact h.symm ▸ Nat.le_refl _
  · exact h

end LiteralMarkdown.Protection
