import LiteralMarkdown.Proofs.Marks
import LiteralMarkdown.Proofs.Protection.Blocks

/-!
# Protected stretches under backslashes

Backslashes that are put into a text can complete no tag and no block: what is a tag or a block with
them is one without them. `Padded` relates a text to itself with backslashes put in anywhere, and
`IsTag.of_padded` and `IsBlock.of_padded` are the main statements. The converse fails, for a
backslash may break a tag.
-/

namespace LiteralMarkdown

/-- The second text is the first one with backslashes put in anywhere. -/
inductive Padded : List Char → List Char → Prop where
  | nil : Padded [] []
  | keep {t u : List Char} (a : Char) (h : Padded t u) : Padded (a :: t) (a :: u)
  | pad {t u : List Char} (h : Padded t u) : Padded t (escapeMarker :: u)

theorem Padded.refl (t : List Char) : Padded t t := by
  induction t with
  | nil => exact .nil
  | cons a t ih => exact .keep a ih

theorem Padded.append {t u t' u' : List Char} (h : Padded t u) (h' : Padded t' u') :
    Padded (t ++ t') (u ++ u') := by
  induction h with
  | nil => exact h'
  | keep a h ih => exact .keep a ih
  | pad h ih => exact .pad ih

/-- Where the padded text is split, the text can be split. -/
theorem Padded.split {t u u' : List Char} (h : Padded t (u ++ u')) :
    ∃ s s', t = s ++ s' ∧ Padded s u ∧ Padded s' u' := by
  induction u generalizing t with
  | nil => exact ⟨[], t, rfl, .nil, h⟩
  | cons a u ih =>
    cases h with
    | keep _ h =>
      rcases ih h with ⟨s, s', rfl, hs, hs'⟩
      exact ⟨a :: s, s', rfl, .keep a hs, hs'⟩
    | pad h =>
      rcases ih h with ⟨s, s', rfl, hs, hs'⟩
      exact ⟨s, s', rfl, .pad hs, hs'⟩

/-- A text without backslashes is padded only from itself. -/
theorem Padded.eq_of_not_mem {t u : List Char} (h : Padded t u) (hu : escapeMarker ∉ u) :
    t = u := by
  induction h with
  | nil => rfl
  | keep a h ih => rw [ih fun hmem => hu (List.mem_cons_of_mem a hmem)]
  | pad h ih => exact absurd List.mem_cons_self hu

theorem Padded.split_of_not_mem {t u u' : List Char} (h : Padded t (u ++ u'))
    (hu : escapeMarker ∉ u) : ∃ s', t = u ++ s' ∧ Padded s' u' := by
  rcases h.split with ⟨s, s', rfl, hs, hs'⟩
  exact ⟨s', by rw [hs.eq_of_not_mem hu], hs'⟩

theorem Padded.mem {t u : List Char} (h : Padded t u) {a : Char} (ha : a ∈ t) : a ∈ u := by
  induction h with
  | nil => exact ha
  | keep b h ih =>
    rcases List.mem_cons.1 ha with rfl | ha
    · exact List.mem_cons_self
    · exact List.mem_cons_of_mem b (ih ha)
  | pad h ih => exact List.mem_cons_of_mem _ (ih ha)

/-- Escaping pads a text. -/
theorem Escapes.padded {escapable text result : List Char} (h : Escapes escapable text result) :
    Padded text result := by
  rcases h with ⟨gs, rfl, rfl, -⟩
  induction gs with
  | nil => exact .nil
  | cons g gs ih =>
    rw [Glyph.plain_cons, Glyph.shown_cons]
    cases g.escaped with
    | true => exact .pad (.keep g.char ih)
    | false => exact .keep g.char ih

namespace Protection

theorem not_mem_of_isBlank {blanks : List Char} (h : ∀ a ∈ blanks, Text.isBlank a = true) :
    escapeMarker ∉ blanks := fun hmem => absurd (h _ hmem) (by decide)

theorem not_mem_of_isWord {name : List Char} (h : ∀ a ∈ name, Text.isWord a = true) :
    escapeMarker ∉ name := fun hmem => absurd (h _ hmem) (by decide)

/-- An attribute with backslashes in its value is one without them, and the word with which it
begins is the same. -/
theorem IsAttribute.of_padded {t x : List Char} (hx : IsAttribute x) (h : Padded t x) :
    IsAttribute t ∧ (∃ a ∈ t, Text.isWord a = false) ∧
      t.takeWhile Text.isWord = x.takeWhile Text.isWord := by
  rcases hx with ⟨blanks, name, value, quote, hblanks, hne, hname, hquote, hvalue, rfl⟩
  -- Only the value can hold a backslash: everything up to the first quote is free of them.
  have hfront : escapeMarker ∉ blanks ++ (name ++ ['=', quote]) := by
    intro hmem
    rcases List.mem_append.1 hmem with hmem | hmem
    · exact not_mem_of_isBlank hblanks hmem
    · rcases List.mem_append.1 hmem with hmem | hmem
      · rcases hname _ hmem with hword | hdash
        · exact absurd hword (by decide)
        · exact absurd hdash (by decide)
      · rcases hquote with rfl | rfl <;> exact absurd hmem (by decide)
  have hback : escapeMarker ∉ [quote] := fun hmem =>
    hfront (List.mem_append_right _ (List.mem_append_right _ (List.mem_cons_of_mem _ hmem)))
  have hsplit (v : List Char) : blanks ++ (name ++ '=' :: quote :: (v ++ [quote])) =
      (blanks ++ (name ++ ['=', quote])) ++ (v ++ [quote]) := by simp
  rw [hsplit] at h ⊢
  rcases h.split_of_not_mem hfront with ⟨s, rfl, hs⟩
  rcases hs.split with ⟨value', back, rfl, hvalue', hs⟩
  obtain rfl := hs.eq_of_not_mem hback
  have hsign : ∃ a ∈ blanks ++ (name ++ ['=', quote]), Text.isWord a = false :=
    ⟨'=', by simp, by decide⟩
  refine ⟨⟨blanks, name, value', quote, hblanks, hne, hname, hquote,
    fun hmem => hvalue (hvalue'.mem hmem), (hsplit value').symm⟩, ?_, ?_⟩
  · rcases hsign with ⟨a, ha, hword⟩
    exact ⟨a, List.mem_append_left _ ha, hword⟩
  · rw [takeWhile_append_of_mem _ hsign, takeWhile_append_of_mem _ hsign]

theorem TagEnd.of_padded {t x : List Char} (hx : TagEnd x) (h : Padded t x) :
    TagEnd t ∧ t.takeWhile Text.isWord = x.takeWhile Text.isWord := by
  induction hx generalizing t with
  | @close blanks hblanks =>
    have hnone : escapeMarker ∉ blanks ++ ['>'] := by
      intro hmem
      rcases List.mem_append.1 hmem with hmem | hmem
      · exact not_mem_of_isBlank hblanks hmem
      · exact absurd hmem (by decide)
    obtain rfl := h.eq_of_not_mem hnone
    exact ⟨.close hblanks, rfl⟩
  | more hx next ih =>
    rcases h.split with ⟨s, s', rfl, hs, hs'⟩
    rcases hx.of_padded hs with ⟨hattribute, hsign, hword⟩
    rcases hx.of_padded (.refl _) with ⟨-, hsign', -⟩
    refine ⟨.more hattribute (ih hs').1, ?_⟩
    rw [takeWhile_append_of_mem _ hsign, takeWhile_append_of_mem _ hsign', hword]

theorem IsTag.of_padded {t x : List Char} (hx : IsTag x) (h : Padded t x) : IsTag t := by
  rcases hx with ⟨name, tail, hne, hname, htail, hnone, rfl⟩
  have hfront : escapeMarker ∉ '<' :: name := by
    rw [List.mem_cons, not_or]
    exact ⟨by decide, not_mem_of_isWord hname⟩
  rw [← List.cons_append] at h
  rcases h.split_of_not_mem hfront with ⟨tail', rfl, htail'⟩
  rcases htail.of_padded htail' with ⟨htail', hword⟩
  refine ⟨name, tail', hne, hname, htail', ?_, rfl⟩
  -- The lookahead sees the same word with and without backslashes.
  rw [OpensPreformatted, List.takeWhile_append_of_pos hname] at hnone ⊢
  rwa [hword]

theorem IsBlock.of_padded {t x : List Char} (hx : IsBlock x) (h : Padded t x) : IsBlock t := by
  rcases hx with ⟨name, hname, tail, body, htail, rfl⟩
  have hchars := not_mem_of_isWord (isWord_of_mem_preformattedNames name hname)
  have hfront : escapeMarker ∉ '<' :: name := by
    rw [List.mem_cons, not_or]
    exact ⟨by decide, hchars⟩
  have hback : escapeMarker ∉ closingTag name := by
    simp only [closingTag, List.mem_cons, List.mem_append, not_or]
    exact ⟨by decide, by decide, hchars, by decide, by simp⟩
  rw [← List.cons_append] at h
  -- Backslashes lie in the attributes and in the body: neither the name nor the closing tag has
  -- any.
  rcases h.split_of_not_mem hfront with ⟨s, rfl, hs⟩
  rcases hs.split with ⟨tail', s, rfl, htail', hs⟩
  rcases hs.split with ⟨body', back, rfl, -, hs⟩
  obtain rfl := hs.eq_of_not_mem hback
  exact ⟨name, hname, tail', body', (htail.of_padded htail').1, rfl⟩

end Protection

end LiteralMarkdown
