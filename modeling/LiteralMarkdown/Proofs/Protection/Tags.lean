import LiteralMarkdown.Protection
import LiteralMarkdown.Proofs.Pattern.Language

/-!
# Opening tags

What the pattern for opening HTML tags matches, said without the pattern. An opening tag ends at the
first closing bracket outside quotes, and `behindTag` reads on to there; so no two opening tags
begin at the same place. The main statements are `accepts_htmlTag` and `IsTag.unique`.
-/

namespace LiteralMarkdown.Protection

open Pattern Computability Cursor

/-- An attribute: its name and a value in quotes, with blanks before it. -/
def IsAttribute (x : List Char) : Prop :=
  ∃ (blanks name value : List Char) (quote : Char), (∀ a ∈ blanks, Text.isBlank a = true) ∧
    name ≠ [] ∧ (∀ a ∈ name, Text.isWord a = true ∨ a = '-') ∧ (quote = '\x22' ∨ quote = '\x27') ∧
    quote ∉ value ∧ x = blanks ++ (name ++ '=' :: quote :: (value ++ [quote]))

/-- What follows the name in an opening tag. -/
inductive TagEnd : List Char → Prop where
  | close {blanks : List Char} (hblanks : ∀ a ∈ blanks, Text.isBlank a = true) :
      TagEnd (blanks ++ ['>'])
  | more {x rest : List Char} (hx : IsAttribute x) (next : TagEnd rest) : TagEnd (x ++ rest)

/-! ## Reading on to the end of a tag -/

/-- The text behind the first closing bracket outside quotes, if there is one. Inside quotes the
kind of quote is given. -/
def behindTag : Option Char → List Char → Option (List Char)
  | _, [] => none
  | some quote, a :: rest => behindTag (if a = quote then none else some quote) rest
  | none, a :: rest =>
    if a = '>' then some rest
    else behindTag (if a = '\x22' ∨ a = '\x27' then some a else none) rest

theorem behindTag_append {x : List Char} (rest : List Char)
    (h : ∀ a ∈ x, a ≠ '>' ∧ a ≠ '\x22' ∧ a ≠ '\x27') :
    behindTag none (x ++ rest) = behindTag none rest := by
  induction x with
  | nil => rfl
  | cons a x ih =>
    rcases h a List.mem_cons_self with ⟨hclose, hdouble, hsingle⟩
    have hx := ih fun b hb => h b (List.mem_cons_of_mem a hb)
    simpa [behindTag, hclose, hdouble, hsingle] using hx

theorem behindTag_quoted {value : List Char} {quote : Char} (rest : List Char)
    (h : quote ∉ value) :
    behindTag (some quote) (value ++ quote :: rest) = behindTag none rest := by
  induction value with
  | nil => simp [behindTag]
  | cons a value ih =>
    rw [List.mem_cons, not_or] at h
    simpa [behindTag, Ne.symm h.1] using ih h.2

/-- Neither blanks nor word characters nor dashes nor equals signs end a tag or open quotes. -/
theorem ne_of_isBlank {a : Char} (h : Text.isBlank a = true) :
    a ≠ '>' ∧ a ≠ '\x22' ∧ a ≠ '\x27' := by
  refine ⟨?_, ?_, ?_⟩ <;> (rintro rfl; revert h; decide)

theorem ne_of_isWord {a : Char} (h : Text.isWord a = true) :
    a ≠ '>' ∧ a ≠ '\x22' ∧ a ≠ '\x27' := by
  refine ⟨?_, ?_, ?_⟩ <;> (rintro rfl; revert h; decide)

theorem IsAttribute.behindTag_eq {x : List Char} (h : IsAttribute x) (rest : List Char) :
    behindTag none (x ++ rest) = behindTag none rest := by
  rcases h with ⟨blanks, name, value, quote, hblanks, -, hname, hquote, hvalue, rfl⟩
  have hfront : ∀ a ∈ blanks ++ (name ++ ['=']), a ≠ '>' ∧ a ≠ '\x22' ∧ a ≠ '\x27' := by
    intro a ha
    rcases List.mem_append.1 ha with ha | ha
    · exact ne_of_isBlank (hblanks a ha)
    · rcases List.mem_append.1 ha with ha | ha
      · rcases hname a ha with hword | rfl
        · exact ne_of_isWord hword
        · decide
      · rw [List.mem_singleton.1 ha]
        decide
  have hsplit : blanks ++ (name ++ '=' :: quote :: (value ++ [quote])) ++ rest =
      (blanks ++ (name ++ ['='])) ++ quote :: (value ++ quote :: rest) := by simp
  have hclose : quote ≠ '>' := by rcases hquote with rfl | rfl <;> decide
  rw [hsplit, behindTag_append _ hfront, behindTag, if_neg hclose, if_pos hquote,
    behindTag_quoted rest hvalue]

theorem TagEnd.behindTag_eq {x : List Char} (h : TagEnd x) (rest : List Char) :
    behindTag none (x ++ rest) = some rest := by
  induction h with
  | close hblanks =>
    rw [List.append_assoc, behindTag_append _ fun a ha => ne_of_isBlank (hblanks a ha)]
    simp [behindTag]
  | more hx next ih => rw [List.append_assoc, hx.behindTag_eq, ih]

/-! ## Names of preformatted elements -/

/-- The names of preformatted elements, as lists of characters. -/
def preformattedNames : List (List Char) := preformattedTags.map String.toList

theorem isWord_of_mem_preformattedNames :
    ∀ name ∈ preformattedNames, ∀ a ∈ name, Text.isWord a = true := by
  have hall : ∀ name ∈ preformattedNames, name.all Text.isWord = true := by decide
  exact fun name hname => List.all_eq_true.1 (hall name hname)

theorem ne_nil_of_mem_preformattedNames : ∀ name ∈ preformattedNames, name ≠ [] := by decide

theorem eq_of_prefix_preformattedNames :
    ∀ name ∈ preformattedNames, ∀ other ∈ preformattedNames, name <+: other → name = other := by
  decide

/-- The word with which the text begins is the name of a preformatted element. -/
def OpensPreformatted (rest : List Char) : Prop :=
  rest.takeWhile Text.isWord ∈ preformattedNames

/-- What is taken from a text does not depend on what follows a character that is not taken. -/
theorem takeWhile_append_of_mem {p : Char → Bool} {x : List Char} (rest : List Char)
    (h : ∃ a ∈ x, p a = false) : (x ++ rest).takeWhile p = x.takeWhile p := by
  induction x with
  | nil => simp at h
  | cons a x ih =>
    cases ha : p a with
    | false => simp [ha]
    | true =>
      rcases h with ⟨b, hb, hpb⟩
      have hx : b ∈ x := by
        rcases List.mem_cons.1 hb with rfl | hb
        · rw [ha] at hpb
          cases hpb
        · exact hb
      simp [ha, ih ⟨b, hx, hpb⟩]

/-- A tag ends with a character that is no word character. -/
theorem TagEnd.exists_not_isWord {x : List Char} (h : TagEnd x) :
    ∃ a ∈ x, Text.isWord a = false := by
  induction h with
  | close hblanks => exact ⟨'>', by simp, by decide⟩
  | more hx next ih =>
    rcases ih with ⟨a, ha, hword⟩
    exact ⟨a, List.mem_append_right _ ha, hword⟩

/-- Whether a preformatted name lies ahead can be told from the tag itself. -/
theorem TagEnd.opensPreformatted_append_iff {name tail : List Char} (htail : TagEnd tail)
    (rest : List Char) :
    OpensPreformatted (name ++ tail ++ rest) ↔ OpensPreformatted (name ++ tail) := by
  rcases htail.exists_not_isWord with ⟨a, ha, hword⟩
  rw [OpensPreformatted, takeWhile_append_of_mem rest ⟨a, List.mem_append_right _ ha, hword⟩,
    OpensPreformatted]

/-! ## Opening tags -/

/-- An opening tag of an element that is not preformatted. -/
def IsTag (x : List Char) : Prop :=
  ∃ name tail, name ≠ [] ∧ (∀ a ∈ name, Text.isWord a = true) ∧ TagEnd tail ∧
    ¬ OpensPreformatted (name ++ tail) ∧ x = '<' :: (name ++ tail)

/-- Two opening tags of any kind that begin at the same place are one. -/
theorem tagEnd_unique {name name' tail tail' rest rest' : List Char}
    (hname : ∀ a ∈ name, Text.isWord a = true) (hname' : ∀ a ∈ name', Text.isWord a = true)
    (htail : TagEnd tail) (htail' : TagEnd tail')
    (h : name ++ (tail ++ rest) = name' ++ (tail' ++ rest')) :
    name ++ tail = name' ++ tail' ∧ rest = rest' := by
  have hbehind : behindTag none (name ++ (tail ++ rest)) = some rest := by
    rw [behindTag_append _ fun a ha => ne_of_isWord (hname a ha), htail.behindTag_eq]
  have hbehind' : behindTag none (name' ++ (tail' ++ rest')) = some rest' := by
    rw [behindTag_append _ fun a ha => ne_of_isWord (hname' a ha), htail'.behindTag_eq]
  -- Reading on from the name gives the text behind the tag, and that is the same for both.
  have hrest : rest = rest' := by
    rw [h, hbehind'] at hbehind
    exact (Option.some.inj hbehind).symm
  subst hrest
  rw [← List.append_assoc, ← List.append_assoc] at h
  exact ⟨List.append_cancel_right h, rfl⟩

theorem IsTag.unique {x y rest : List Char} (hx : IsTag x) (hy : IsTag y) (hpx : x <+: rest)
    (hpy : y <+: rest) : x = y := by
  rcases hx with ⟨name, tail, -, hname, htail, -, rfl⟩
  rcases hy with ⟨name', tail', -, hname', htail', -, rfl⟩
  rcases hpx with ⟨r, rfl⟩
  rcases hpy with ⟨s, hs⟩
  have h : name' ++ (tail' ++ s) = name ++ (tail ++ r) := by simpa using hs
  rw [(tagEnd_unique hname' hname htail' htail h).1]

/-! ## The pattern -/

theorem accepts_quoted (quote : Char) :
    (quoted quote).Accepts
      (wordsWhere fun x => ∃ value, quote ∉ value ∧ x = quote :: (value ++ [quote])) := by
  have hseq := (accepts_char_only quote).seq
    ((accepts_zeroOrMore_chars (.noneOf [quote])).seq (accepts_char_only quote))
  refine hseq.of_iff fun x => ?_
  simp only [Language.mem_mul, mem_wordsWhere, CharSet.has_noneOf, exists_eq_left]
  constructor
  · rintro ⟨value, hvalue, rfl⟩
    exact ⟨_, ⟨value, fun a ha h => hvalue (h ▸ ha), rfl⟩, rfl⟩
  · rintro ⟨_, ⟨value, hvalue, rfl⟩, rfl⟩
    exact ⟨value, fun h => hvalue quote h rfl, rfl⟩

theorem has_ofItem {item : CharSet.Item} {a : Char} :
    (CharSet.ofItem item).has a = item.has a := by
  simp [CharSet.ofItem, CharSet.has]

theorem accepts_tagAttribute : tagAttribute.Accepts (wordsWhere IsAttribute) := by
  have hseq := (accepts_zeroOrMore_chars (.ofItem .blank)).seq
    ((accepts_oneOrMore_chars ⟨false, [.word, .one '-']⟩).seq
      ((accepts_char_only '=').seq ((accepts_quoted '\x22').alt (accepts_quoted '\x27'))))
  have hname : ∀ a, (⟨false, [.word, .one '-']⟩ : CharSet).has a = true ↔
      Text.isWord a = true ∨ a = '-' := by
    intro a
    simp [CharSet.has, CharSet.Item.has]
  refine hseq.of_iff fun x => ?_
  simp only [Language.mem_mul, Language.mem_add, mem_wordsWhere, hname, has_ofItem, exists_eq_left]
  constructor
  · rintro ⟨blanks, name, value, quote, hblanks, hne, hchars, hquote, hvalue, rfl⟩
    refine ⟨blanks, hblanks, _,
      ⟨name, ⟨hne, hchars⟩, _, ⟨quote :: (value ++ [quote]), ?_, rfl⟩, rfl⟩, rfl⟩
    rcases hquote with rfl | rfl
    · exact Or.inl ⟨value, hvalue, rfl⟩
    · exact Or.inr ⟨value, hvalue, rfl⟩
  · rintro ⟨blanks, hblanks, _, ⟨name, ⟨hne, hchars⟩, _, ⟨y, hy, rfl⟩, rfl⟩, rfl⟩
    rcases hy with ⟨value, hvalue, rfl⟩ | ⟨value, hvalue, rfl⟩
    · exact ⟨blanks, name, value, '\x22', hblanks, hne, hchars, Or.inl rfl, hvalue, rfl⟩
    · exact ⟨blanks, name, value, '\x27', hblanks, hne, hchars, Or.inr rfl, hvalue, rfl⟩

theorem accepts_tagEnd : (sequence tagEnd).Accepts (wordsWhere TagEnd) := by
  have hseq := accepts_tagAttribute.zeroOrMore.seq
    ((accepts_zeroOrMore_chars (.ofItem .blank)).seq (accepts_char_only '>'))
  refine hseq.of_iff fun x => ?_
  simp only [Language.mem_mul, Language.mem_kstar, mem_wordsWhere, has_ofItem, exists_eq_left]
  constructor
  · intro h
    induction h with
    | close hblanks => exact ⟨[], ⟨[], rfl, by simp⟩, _, ⟨_, hblanks, rfl⟩, rfl⟩
    | @more x rest hx next ih =>
      rcases ih with ⟨_, ⟨parts, rfl, hparts⟩, y, hy, rfl⟩
      refine ⟨x ++ parts.flatten, ⟨x :: parts, by simp, ?_⟩, y, hy, List.append_assoc ..⟩
      intro z hz
      rcases List.mem_cons.1 hz with rfl | hz
      · exact hx
      · exact hparts z hz
  · rintro ⟨_, ⟨parts, rfl, hparts⟩, _, ⟨blanks, hblanks, rfl⟩, rfl⟩
    induction parts with
    | nil => exact .close hblanks
    | cons x parts ih =>
      rw [List.flatten_cons, List.append_assoc]
      exact .more (hparts x List.mem_cons_self)
        (ih fun z hz => hparts z (List.mem_cons_of_mem x hz))

theorem accepts_preformattedName :
    preformattedName.Accepts (wordsWhere (· ∈ preformattedNames)) := by
  have hchoice := (accepts_literal "pre".toList).alt
    ((accepts_literal "style".toList).alt (accepts_literal "script".toList))
  refine hchoice.of_iff fun x => ?_
  simp only [preformattedNames, preformattedTags, List.map_cons, List.map_nil, List.mem_cons,
    List.not_mem_nil, or_false, Language.mem_add, mem_wordsWhere]

/-- The text begins with a word that names a preformatted element just if such a name lies ahead and
no word character follows it. -/
theorem opensPreformatted_iff {rest : List Char} :
    OpensPreformatted rest ↔ ∃ name ∈ preformattedNames, ∃ r, rest = name ++ r ∧
      r.head?.any Text.isWord = false := by
  constructor
  · intro h
    refine ⟨_, h, rest.dropWhile Text.isWord, List.takeWhile_append_dropWhile.symm, ?_⟩
    have hhead := List.head?_dropWhile_not Text.isWord rest
    cases hr : (rest.dropWhile Text.isWord).head? with
    | none => rfl
    | some a => simpa [hr] using hhead
  · rintro ⟨name, hname, r, rfl, hr⟩
    -- No word character follows the name, so the word ends with it.
    have htail : r.takeWhile Text.isWord = [] := by
      cases r with
      | nil => rfl
      | cons a r =>
        have ha : Text.isWord a = false := by simpa using hr
        simp [ha]
    have hchars := isWord_of_mem_preformattedNames name hname
    rw [OpensPreformatted, List.takeWhile_append_of_pos hchars, htail, List.append_nil]
    exact hname

/-- Behind the name of a preformatted element a word ends just if no word character follows. -/
theorem atWordBoundary_after {c : Cursor} {name r : List Char} (hname : name ∈ preformattedNames)
    (hr : c.rest = name ++ r) :
    (c.after name).atWordBoundary = true ↔ r.head?.any Text.isWord = false := by
  have hlast := List.getLast?_eq_some_getLast (ne_nil_of_mem_preformattedNames name hname)
  have hword := isWord_of_mem_preformattedNames name hname _
    (List.getLast_mem (ne_nil_of_mem_preformattedNames name hname))
  rw [atWordBoundary, after_rest hr, after, hlast]
  simp [hword]

theorem ends_preformattedName_wordBoundary {c : Cursor} :
    (sequence [preformattedName, .wordBoundary]).ends c = [] ↔ ¬ OpensPreformatted c.rest := by
  rw [List.eq_nil_iff_forall_not_mem, opensPreformatted_iff]
  constructor
  · rintro h ⟨name, hname, r, hr, hword⟩
    have hpre : name <+: c.rest := ⟨r, hr.symm⟩
    have hd := (accepts_preformattedName c (c.after name)).2 ⟨name, hname, hpre, rfl⟩
    have hboundary := (atWordBoundary_after hname hr).2 hword
    exact h _ (mem_ends_append.2 ⟨_, hd, mem_ends_wordBoundary.2 ⟨hboundary, rfl⟩⟩)
  · intro h e he
    rcases mem_ends_append.1 he with ⟨d, hd, he⟩
    rcases mem_ends_wordBoundary.1 he with ⟨hboundary, rfl⟩
    rcases (accepts_preformattedName c e).1 hd with ⟨name, hname, ⟨r, hr⟩, rfl⟩
    exact h ⟨name, hname, r, hr.symm, (atWordBoundary_after hname hr.symm).1 hboundary⟩

/-- The pattern for opening tags matches just the opening tags of elements that are not
preformatted. -/
theorem accepts_htmlTag : htmlTag.Accepts (wordsWhere IsTag) := by
  have hbody := (accepts_oneOrMore_chars (.ofItem .word)).seq accepts_tagEnd
  intro c e
  constructor
  · intro he
    rcases mem_ends_append.1 he with ⟨d, hd, he⟩
    rcases (accepts_char_only '<' c d).1 hd with ⟨_, rfl, hopen, rfl⟩
    rcases mem_ends_append.1 he with ⟨d, hd, he⟩
    rcases mem_ends_notAhead.1 hd with ⟨hnone, rfl⟩
    rcases (hbody _ e).1 he with ⟨x, hx, hpre, rfl⟩
    rcases Language.mem_mul.1 hx with ⟨name, ⟨hne, hchars⟩, tail, htail, rfl⟩
    refine ⟨['<'] ++ (name ++ tail), ⟨name, tail, hne, ?_, htail, ?_, rfl⟩,
      append_prefix_rest_iff.2 ⟨hopen, hpre⟩, (after_append ..).symm⟩
    · exact fun a ha => has_ofItem.symm.trans (hchars a ha)
    · rcases hpre with ⟨r, hr⟩
      rw [ends_preformattedName_wordBoundary, ← hr, htail.opensPreformatted_append_iff] at hnone
      exact hnone
  · rintro ⟨x, ⟨name, tail, hne, hchars, htail, hnone, rfl⟩, hpre, rfl⟩
    have hsplit : '<' :: (name ++ tail) = ['<'] ++ (name ++ tail) := rfl
    rw [hsplit] at hpre ⊢
    rcases append_prefix_rest_iff.1 hpre with ⟨hopen, hrest⟩
    have hahead : (c.after ['<']) ∈
        (Pattern.notAhead (sequence [preformattedName, .wordBoundary])).ends (c.after ['<']) := by
      rcases hrest with ⟨r, hr⟩
      rw [← htail.opensPreformatted_append_iff r, hr,
        ← ends_preformattedName_wordBoundary] at hnone
      exact mem_ends_notAhead.2 ⟨hnone, rfl⟩
    have hend : (c.after ['<']).after (name ++ tail) ∈
        (oneOrMore (.chars (.ofItem .word)) ++ sequence tagEnd).ends (c.after ['<']) := by
      refine (hbody _ _).2 ⟨name ++ tail, Language.append_mem_mul ⟨hne, ?_⟩ htail, hrest, rfl⟩
      exact fun a ha => has_ofItem.trans (hchars a ha)
    rw [after_append]
    exact mem_ends_append.2 ⟨_, (accepts_char_only '<' c _).2 ⟨_, rfl, hopen, rfl⟩,
      mem_ends_append.2 ⟨_, hahead, hend⟩⟩

end LiteralMarkdown.Protection
