import LiteralMarkdown.Proofs.Overlay

/-!
# Single underscores that remain

The rule for single underscores asks for the end of a word behind the second one. An underscore that
another one follows is not at the end of a word, for underscores are word characters. But if the
other one is escaped, its backslash comes to lie between the two, and a backslash is no word
character: the two single underscores have become an entity that was none when the rule was applied.
This is the only way in which they remain.

* `ends_word_iff_of_unescaped_underscores`: an entity of single underscores that are not escaped is
  one just if an escaped underscore follows it.
-/

namespace LiteralMarkdown

open Glyph EscapeRule

namespace Glyph

/-- A character in the shown reading that does not stand behind a backslash is not marked. -/
theorem unmarked_of_getLast?_ne {gs before behind : List Glyph} {g : Glyph}
    (h : spelled gs = before ++ g :: behind)
    (hbefore : (plain before).getLast? ≠ some escapeMarker) : g.escaped = false := by
  by_contra he
  have hlast := getLast?_of_spelled h (by simpa using he)
  apply hbefore
  rw [plain, List.getLast?_map, hlast]
  rfl

/-- Two characters that do not stand behind backslashes, and what lies before, between and behind
them, are found again in the text before backslashes were put in. -/
theorem exists_parts_of_shown {gs : List Glyph} {d : Char} {before body behind : List Char}
    (hd : d ≠ escapeMarker) (h : shown gs = before ++ d :: (body ++ d :: behind))
    (hbefore : before.getLast? ≠ some escapeMarker)
    (hbody : (d :: body).getLast? ≠ some escapeMarker) :
    ∃ gs₁ gs₂ gs₃, gs = gs₁ ++ ⟨d, false⟩ :: (gs₂ ++ ⟨d, false⟩ :: gs₃) ∧ shown gs₁ = before ∧
      shown gs₂ = body ∧ shown gs₃ = behind := by
  rw [← plain_spelled] at h
  rcases exists_split_of_plain h with ⟨front, rest, hspelled, rfl, hrest⟩
  rcases List.map_eq_cons_iff.1 hrest with ⟨g, rest, rfl, rfl, hrest⟩
  rcases exists_split_of_plain hrest with ⟨middle, rest, rfl, rfl, hlast⟩
  rcases List.map_eq_cons_iff.1 hlast with ⟨k, last, rfl, hk, rfl⟩
  have hg : g.escaped = false := unmarked_of_getLast?_ne hspelled hbefore
  have hsplit : spelled gs = (front ++ g :: middle) ++ k :: last := by
    rw [hspelled, List.append_assoc, List.cons_append]
  have hke : k.escaped = false := by
    refine unmarked_of_getLast?_ne hsplit ?_
    rw [plain_append, plain_cons, List.getLast?_append_cons]
    exact hbody
  have hglyph {f : Glyph} (hf : f.escaped = false) : f = ⟨f.char, false⟩ := by rw [← hf]
  rw [hglyph hg, hglyph hke, hk] at hspelled
  rcases exists_parts_of_spelled (n := 1) (k := 1) hd hspelled Nat.one_pos (Or.inl Nat.one_pos)
    with ⟨gs₁, gs₂, gs₃, hgs, rfl, rfl, rfl⟩
  exact ⟨gs₁, gs₂, gs₃, hgs, (plain_spelled gs₁).symm, (plain_spelled gs₂).symm,
    (plain_spelled gs₃).symm⟩

end Glyph

/-- An entity of single underscores that is not marked has not been one in the text itself: a word
went on behind it. -/
theorem isWord_of_unmarked_underscores {text : List Char} {marks gs₁ gs₂ gs₃ : List Glyph}
    (hmarks : Form.underscored.Marking text marks)
    (h : Below marks (gs₁ ++ ⟨'_', false⟩ :: (gs₂ ++ ⟨'_', false⟩ :: gs₃)))
    (hne : plain gs₂ ≠ []) (hnone : '_' ∉ plain gs₂) :
    (plain gs₃).head?.any Text.isWord = true := by
  rcases h.exists_parts (n := 1) (k := 1) with ⟨hs₁, hs₂, hs₃, rfl, -, hbody, hbehind⟩
  rw [← hbody.sameText.plain_eq] at hne hnone
  rw [← hbehind.sameText.plain_eq]
  by_contra hword
  -- Then it was an entity, and the first underscore was marked.
  have hat : Form.underscored.At (plain (⟨'_', false⟩ :: (hs₂ ++ (⟨'_', false⟩ :: hs₃))))
      1 (plain hs₂) 1 (plain hs₃) :=
    ⟨by simp [Form.underscored], rfl, rfl, hne, hnone, by simpa using hword⟩
  have hmarked := hmarks.escaped_of_at Form.solid_underscored rfl hat
  cases hmarked

/-- Two underscores that are not escaped, with something between them but no underscore: the second
one is at the end of a word just if an escaped underscore follows it. -/
theorem ends_word_iff_of_unescaped_underscores {text before body behind : List Char}
    (hresult : escapeAllDelimiters text = before ++ '_' :: (body ++ '_' :: behind))
    (hbefore : before.getLast? ≠ some escapeMarker) (hbody : body.getLast? ≠ some escapeMarker)
    (hne : body ≠ []) (hnone : '_' ∉ body) :
    behind.head?.any Text.isWord = false ↔ [escapeMarker, '_'] <+: behind := by
  rcases exists_overlay text with ⟨strong, gs, h⟩
  have hmarks := recognizes_underscoreEmphasis.marking text
  have hbelow := h.below underscoreEmphasis (by decide) (by decide)
  have hchar := h.escapesBy.char_mem
  rw [← h.escapesBy.shown_eq] at hresult
  have hlast : ('_' :: body).getLast? ≠ some escapeMarker := by
    rcases List.exists_cons_of_ne_nil hne with ⟨a, body, rfl⟩
    exact hbody
  rcases exists_parts_of_shown (by decide) hresult hbefore hlast with
    ⟨gs₁, gs₂, gs₃, rfl, rfl, rfl, rfl⟩
  rw [mem_shown (by decide)] at hnone
  have hword := isWord_of_unmarked_underscores hmarks hbelow (hne ∘ shown_eq_nil_iff.2) hnone
  constructor
  · intro hend
    -- A word went on behind the second underscore, so a backslash has been put in there.
    cases gs₃ with
    | nil => cases hword
    | cons g gs₃ =>
      have hg : Text.isWord g.char = true := hword
      cases he : g.escaped with
      | false =>
        rw [shown_cons, he] at hend
        have hnot : Text.isWord g.char = false := hend
        rw [hnot] at hg
        cases hg
      | true =>
        have hunderscore : g.char = '_' :=
          (Form.isWord_iff_of_mem_entityChars (hchar g (by simp) he)).1 hg
        rw [shown_cons, he, hunderscore]
        exact List.prefix_append _ _
  · rintro ⟨rest, hrest⟩
    have hmarker : Text.isWord escapeMarker = false := by decide
    rw [← hrest]
    exact hmarker

/-- Behind the first letter of `_a__b_` stand two underscores. The rule for single ones takes the
second of these for the beginning of an entity, and its backslash ends the word before it. -/
theorem ends_word_of_doubled_underscore :
    escapeAllDelimiters "_a__b_".toList = [] ++ '_' :: (['a'] ++ '_' :: "\\_b\\_".toList) ∧
      ("\\_b\\_".toList.head?.any Text.isWord = false ↔ ['\\', '_'] <+: "\\_b\\_".toList) := by
  have hresult : escapeAllDelimiters "_a__b_".toList =
      [] ++ '_' :: (['a'] ++ '_' :: "\\_b\\_".toList) := by decide
  exact ⟨hresult, ends_word_iff_of_unescaped_underscores hresult (by decide) (by decide)
    (by decide) (by decide)⟩

/-- So single underscores can remain. -/
theorem exists_underscores_remaining : ¬ ∀ text : List Char, escapeMarker ∉ text →
    ∀ before body behind : List Char,
      escapeAllDelimiters text = before ++ '_' :: (body ++ '_' :: behind) →
      before.getLast? ≠ some escapeMarker → body.getLast? ≠ some escapeMarker →
      body ≠ [] → '_' ∉ body → behind.head?.any Text.isWord = true := by
  intro hall
  have hword := hall "_a__b_".toList (by decide) [] ['a'] "\\_b\\_".toList (by decide)
    (by decide) (by decide) (by decide) (by decide)
  exact absurd hword (by decide)

end LiteralMarkdown
