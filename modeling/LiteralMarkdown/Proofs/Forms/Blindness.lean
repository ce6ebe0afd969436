import LiteralMarkdown.Proofs.Forms.Recognition
import LiteralMarkdown.Proofs.Spelling

/-!
# Rules do not see each other's backslashes

A backslash before an asterisk neither makes nor breaks anything that the rule for tildes would take
for an entity: it lies in a body, where it does no harm, or between two words, where something that
is no word character lay before. So the marks of a rule on a text that has been escaped are its
marks on the text itself, carried over. This holds of backslashes before all characters that rules
escape, except the rule's own delimiter.

* `Form.Blind.marking_shown`: what is marked in a text is marked in the escaped text;
* `EscapeRule.Recognizes.marks_shown`: the same for the marks of a rule.
-/

namespace LiteralMarkdown

open Glyph

namespace Form

/-- The marks are before characters that rules escape, none of them before the delimiter of the
form. -/
def Spares (form : Form) (gs : List Glyph) : Prop :=
  ∀ g ∈ gs, g.escaped = true → g.char ∈ entityChars ∧ g.char ≠ form.delimiter

/-- Backslashes before other characters neither make nor break an entity of the form. -/
structure Blind (form : Form) : Prop where
  delimiter_ne : form.delimiter ≠ escapeMarker
  /-- A backslash cannot be the last character of an entity. -/
  closed : ∀ {n body k behind}, form.Entity n body k behind →
    0 < k ∨ body.getLast? ≠ some escapeMarker
  entity_iff : ∀ {n k} {body behind : List Glyph}, form.Spares body → form.Spares behind →
    (form.Entity n (shown body) k (shown behind) ↔ form.Entity n (plain body) k (plain behind))

variable {form : Form}

theorem Spares.of_append {gs hs : List Glyph} (h : form.Spares (gs ++ hs)) :
    form.Spares gs ∧ form.Spares hs :=
  ⟨fun g hg => h g (List.mem_append_left hs hg), fun g hg => h g (List.mem_append_right gs hg)⟩

theorem Spares.char_ne {gs : List Glyph} (h : form.Spares gs) :
    ∀ g ∈ gs, g.escaped = true → g.char ≠ form.delimiter := fun g hg he => (h g hg he).2

theorem shown_replicate (d : Char) (m : Nat) :
    shown (List.replicate m ⟨d, false⟩) = List.replicate m d := by
  have htext : List.replicate m ⟨d, false⟩ = ofText false (List.replicate m d) := by simp [ofText]
  rw [htext, shown_ofText_false]

/-- The marks of an entity are carried over to the entity with backslashes in its body. -/
theorem carry_marked (n k : Nat) (gs₁ gs₂ hs : List Glyph) :
    carry (List.replicate n ⟨form.delimiter, false⟩ ++
      (gs₁ ++ (List.replicate k ⟨form.delimiter, false⟩ ++ gs₂)))
      (form.marked n (plain gs₁) k ++ hs) = form.marked n (shown gs₁) k ++ carry gs₂ hs := by
  have hbody : SameText gs₁ (ofText false (plain gs₁)) := sameText_iff.2 (by simp)
  simp only [marked, List.append_assoc]
  rw [carry_parts (plain_replicate n _ true) (plain_replicate k _ true) hbody,
    carry_ofText_false]

namespace Blind

/-- An entity that is seen with backslashes is one without them. -/
theorem exists_at_of_shown (h : form.Blind) {gs : List Glyph} (hgs : form.Spares gs) {n k : Nat}
    {body behind : List Char} (hat : form.At (shown gs) n body k behind) :
    ∃ body' behind', form.At (plain gs) n body' k behind' := by
  have hspelled : ∀ g ∈ spelled gs, g.escaped = true → g.char ≠ form.delimiter := by
    intro g hg he
    rcases mem_spelled hg with hg | rfl
    · exact (hgs g hg he).2
    · cases he
  have htext := hat.text_eq
  rw [← plain_spelled] at htext
  rcases exists_unmarked_parts_of_plain hspelled htext with ⟨hs₁, hs₂, hparts, hbody, hbehind⟩
  have hcut := h.closed hat.entity
  rw [← hbody] at hcut
  rw [← List.nil_append (List.replicate n _ ++ _)] at hparts
  rcases exists_parts_of_spelled h.delimiter_ne hparts (form.opens hat.entity) hcut with
    ⟨gs₀, gs₁, gs₂, rfl, hgs₀, rfl, rfl⟩
  -- Nothing lies before the entity.
  obtain rfl : gs₀ = [] := by
    have hplain := plain_spelled gs₀
    rw [hgs₀] at hplain
    simpa [plain] using shown_eq_nil_iff.1 hplain.symm
  rw [plain_spelled] at hbody hbehind
  have hrest := (Spares.of_append (Spares.of_append hgs).2).2
  have hspares₁ := (Spares.of_append hrest).1
  have hspares₂ := (Spares.of_append (Spares.of_append hrest).2).2
  have hentity := hat.entity
  rw [← hbody, ← hbehind, h.entity_iff hspares₁ hspares₂] at hentity
  exact ⟨plain gs₁, plain gs₂, by simp [plain], hentity⟩

theorem absent_shown (h : form.Blind) {gs : List Glyph} (hgs : form.Spares gs)
    (hnone : form.Absent (plain gs)) : form.Absent (shown gs) := by
  intro n body k behind hat
  rcases h.exists_at_of_shown hgs hat with ⟨body', behind', hat'⟩
  exact hnone n body' k behind' hat'

/-- What is marked in a text is marked in the text that has been escaped. -/
theorem marking_shown (h : form.Blind) {text : List Char} {hs : List Glyph}
    (hmarking : form.Marking text hs) {gs : List Glyph} (htext : plain gs = text)
    (hgs : form.Spares gs) : form.Marking (shown gs) (carry gs hs) := by
  induction hmarking generalizing gs with
  | stop =>
    have : gs = [] := by simpa [plain] using htext
    rw [this]
    exact .stop
  | @skip a rest hs hnone next ih =>
    rcases List.map_eq_cons_iff.1 htext with ⟨g, gs, rfl, rfl, hrest⟩
    have hspares : form.Spares gs := fun f hf => hgs f (List.mem_cons_of_mem g hf)
    have hnext := ih hrest hspares
    rw [carry_cons, shown_cons]
    cases he : g.escaped with
    | true =>
      -- Neither at the backslash nor at the character behind it does an entity begin.
      have hchar := (hgs g List.mem_cons_self he).2
      exact .skip (absent_cons h.delimiter_ne.symm _) (.skip (absent_cons hchar _) hnext)
    | false =>
      have hshown : shown (g :: gs) = g.char :: shown gs := by
        rw [shown_cons, he]
        rfl
      have hnone' : form.Absent (shown (g :: gs)) := h.absent_shown hgs (htext ▸ hnone)
      rw [hshown] at hnone'
      exact .skip hnone' hnext
  | @take text body behind n k hs hat hmost next ih =>
    rcases exists_unmarked_parts_of_plain hgs.char_ne (htext.trans hat.text_eq) with
      ⟨gs₁, gs₂, rfl, rfl, rfl⟩
    have hrest := (Spares.of_append (Spares.of_append hgs).2).2
    have hspares₁ := (Spares.of_append (Spares.of_append hgs).2).1
    have hspares₂ := (Spares.of_append hrest).2
    have hentity := (h.entity_iff hspares₁ hspares₂).2 hat.entity
    have hat' : form.At (shown (List.replicate n ⟨form.delimiter, false⟩ ++
        (gs₁ ++ (List.replicate k ⟨form.delimiter, false⟩ ++ gs₂)))) n (shown gs₁) k (shown gs₂) :=
      ⟨by simp [shown_replicate], hentity⟩
    rw [carry_marked]
    refine .take hat' (fun n' body' k' behind' hseen => ?_) (ih rfl hspares₂)
    rcases h.exists_at_of_shown hgs hseen with ⟨body, behind, hplain⟩
    exact hmost n' body k' behind (htext ▸ hplain)

end Blind

/-! ## The forms of the rules -/

theorem blind_paired {d : Char} {least : Nat} {hollow : Bool} {hleast : 0 < least}
    (hd : d ≠ escapeMarker) : (paired d least hollow hleast).Blind where
  delimiter_ne := hd
  closed := by
    rintro n body k behind ⟨hn, rfl, -, -⟩
    exact Or.inl (Nat.lt_of_lt_of_le hleast hn)
  entity_iff := by
    intro n k body behind _ _
    show (_ ∧ _ ∧ _ ∧ _) ↔ (_ ∧ _ ∧ _ ∧ _)
    rw [mem_shown hd, shown_eq_nil_iff]

/-- Of the characters that rules escape only the underscore is a word character. -/
theorem isWord_iff_of_mem_entityChars {a : Char} (ha : a ∈ entityChars) :
    Text.isWord a = true ↔ a = '_' := by
  simp only [entityChars, List.mem_cons, List.not_mem_nil, or_false] at ha
  rcases ha with rfl | rfl | rfl | rfl | rfl <;> decide

/-- Something that is no word character comes first in the shown reading just if it does in the
plain one: all escaped characters but the underscore are none, and neither is the backslash. -/
theorem any_isWord_head?_shown {gs : List Glyph} (hgs : underscored.Spares gs) :
    (shown gs).head?.any Text.isWord = (plain gs).head?.any Text.isWord := by
  cases gs with
  | nil => rfl
  | cons g gs =>
    rw [shown_cons]
    cases he : g.escaped with
    | false => rfl
    | true =>
      have hmarker : Text.isWord escapeMarker = false := by decide
      rcases hgs g List.mem_cons_self he with ⟨hchar, hne⟩
      have hword : ¬ Text.isWord g.char = true := mt (isWord_iff_of_mem_entityChars hchar).1 hne
      simp [hmarker, hword]

theorem blind_underscored : underscored.Blind where
  delimiter_ne := by decide
  closed := by
    rintro n body k behind ⟨-, rfl, -⟩
    exact Or.inl Nat.one_pos
  entity_iff := by
    intro n k body behind _ hbehind
    show (_ ∧ _ ∧ _ ∧ _ ∧ _) ↔ (_ ∧ _ ∧ _ ∧ _ ∧ _)
    rw [any_isWord_head?_shown hbehind, mem_shown (by decide), Ne, shown_eq_nil_iff]

theorem head?_shown_ne_caret {gs : List Glyph} (hgs : bracketed.Spares gs) :
    (shown gs).head? ≠ some '^' ↔ (plain gs).head? ≠ some '^' := by
  cases gs with
  | nil => rfl
  | cons g gs =>
    rw [shown_cons]
    cases he : g.escaped with
    | false => rfl
    | true =>
      -- Neither the backslash nor the character behind it is a caret.
      have hcaret : '^' ∉ entityChars := by decide
      have hchar : g.char ≠ '^' := fun h => hcaret (h ▸ (hgs g List.mem_cons_self he).1)
      simp [hchar, escapeMarker]

theorem shown_ends_iff {gs : List Glyph} (hgs : bracketed.Spares gs) :
    (∃ inner, shown gs = inner ++ [']'] ∧ ']' ∉ inner) ↔
      ∃ inner, plain gs = inner ++ [']'] ∧ ']' ∉ inner := by
  rcases List.eq_nil_or_concat gs with rfl | ⟨gs, g, rfl⟩
  · rfl
  · have hbracket : ']' ∉ entityChars := by decide
    have hne : ']' ≠ escapeMarker := by decide
    cases he : g.escaped with
    | true =>
      -- The last character is escaped, so it is no closing bracket.
      have hchar : g.char ≠ ']' := fun h => hbracket (h ▸ (hgs g (by simp) he).1)
      constructor
      · rintro ⟨inner, hshown, -⟩
        have hlast := congrArg List.getLast? hshown
        simp [shown, he] at hlast
        exact absurd hlast hchar
      · rintro ⟨inner, hplain, -⟩
        have hlast := congrArg List.getLast? hplain
        simp [plain] at hlast
        exact absurd hlast hchar
    | false =>
      constructor
      · rintro ⟨inner, hshown, hinner⟩
        rw [List.concat_eq_append, shown_concat gs g he] at hshown
        rcases List.append_inj' hshown rfl with ⟨rfl, hlast⟩
        rw [mem_shown hne] at hinner
        exact ⟨plain gs, by simp [List.cons.inj hlast], hinner⟩
      · rintro ⟨inner, hplain, hinner⟩
        rw [List.concat_eq_append, plain_append] at hplain
        rcases List.append_inj' hplain rfl with ⟨rfl, hlast⟩
        rw [← mem_shown hne] at hinner
        refine ⟨shown gs, ?_, hinner⟩
        rw [List.concat_eq_append, shown_concat gs g he, (List.cons.inj hlast).1]

theorem blind_bracketed : bracketed.Blind where
  delimiter_ne := by decide
  closed := by
    rintro n body k behind ⟨-, -, -, inner, rfl, -⟩
    right
    rw [List.getLast?_concat]
    decide
  entity_iff := by
    intro n k body behind hbody _
    show (_ ∧ _ ∧ _ ∧ _) ↔ (_ ∧ _ ∧ _ ∧ _)
    rw [head?_shown_ne_caret hbody, shown_ends_iff hbody]

end Form

/-- The marks of a rule on an escaped text are its marks on the text, carried over, if the
backslashes are not before its own delimiter. -/
theorem EscapeRule.Recognizes.marks_shown {rule : EscapeRule} {form : Form}
    (h : rule.Recognizes form) (hblind : form.Blind) {gs : List Glyph} (hgs : form.Spares gs) :
    rule.marks (shown gs) = carry gs (rule.marks (plain gs)) :=
  (h.marking (shown gs)).unique (hblind.marking_shown (h.marking (plain gs)) rfl hgs)

end LiteralMarkdown
