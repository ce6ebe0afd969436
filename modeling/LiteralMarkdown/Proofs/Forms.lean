import LiteralMarkdown.Proofs.Insertion

/-!
# Forms of entities

What a rule takes for an entity can be said without patterns: so many opening delimiters, a body, so
many closing delimiters, and perhaps a condition on what lies behind. A `Form` says so, and
`Form.Marking` says which characters of a text are marked when the text is read from left to right:
where an entity begins, the one with most opening delimiters is taken and the reading goes on behind
it, and where none begins a character is skipped.

* `Form.Marking.unique`: a form marks each text in one way only;
* `Form.Marking.escaped_of_at`: wherever an entity begins, also between the places that the reading
  comes to, its first character is marked, if the delimiter cannot occur in a body.
-/

namespace LiteralMarkdown

open Glyph

/-- One kind of entity: which numbers of opening delimiters, bodies and numbers of closing
delimiters make one, given what lies behind. -/
structure Form where
  delimiter : Char
  Entity : (opening : Nat) → (body : List Char) → (closing : Nat) → (behind : List Char) → Prop
  /-- An entity has a delimiter to open it. -/
  opens : ∀ {n body k behind}, Entity n body k behind → 0 < n
  /-- Behind a given number of opening delimiters lies one entity at most. -/
  settled : ∀ {n body k behind body' k' behind'}, Entity n body k behind →
    Entity n body' k' behind' →
    body ++ (List.replicate k delimiter ++ behind) =
      body' ++ (List.replicate k' delimiter ++ behind') → body = body' ∧ k = k'

namespace Form

variable {form : Form}

/-- The text begins with an entity that has the given parts. -/
structure At (form : Form) (text : List Char) (n : Nat) (body : List Char) (k : Nat)
    (behind : List Char) : Prop where
  text_eq : text = List.replicate n form.delimiter ++
    (body ++ (List.replicate k form.delimiter ++ behind))
  entity : form.Entity n body k behind

/-- The text begins with no entity. -/
def Absent (form : Form) (text : List Char) : Prop :=
  ∀ n body k behind, ¬ form.At text n body k behind

/-- No entity of the form has a delimiter in its body. -/
def Solid (form : Form) : Prop :=
  ∀ ⦃n body k behind⦄, form.Entity n body k behind → form.delimiter ∉ body

/-- An entity with its delimiters marked. -/
def marked (form : Form) (n : Nat) (body : List Char) (k : Nat) : List Glyph :=
  List.replicate n ⟨form.delimiter, true⟩ ++
    (ofText false body ++ List.replicate k ⟨form.delimiter, true⟩)

/-- The marks of a text that is read from left to right. -/
inductive Marking (form : Form) : List Char → List Glyph → Prop where
  | stop : Marking form [] []
  | skip {a : Char} {rest : List Char} {gs : List Glyph} (hnone : form.Absent (a :: rest))
      (next : Marking form rest gs) : Marking form (a :: rest) (⟨a, false⟩ :: gs)
  | take {text body behind : List Char} {n k : Nat} {gs : List Glyph}
      (hat : form.At text n body k behind)
      (hmost : ∀ n' body' k' behind', form.At text n' body' k' behind' → n' ≤ n)
      (next : Marking form behind gs) : Marking form text (form.marked n body k ++ gs)

/-! ## Where an entity begins -/

theorem At.exists_cons {text body behind : List Char} {n k : Nat}
    (h : form.At text n body k behind) : ∃ rest, text = form.delimiter :: rest := by
  rcases Nat.exists_eq_add_one.2 (form.opens h.entity) with ⟨m, rfl⟩
  have htext := h.text_eq
  rw [List.replicate_succ, List.cons_append] at htext
  exact ⟨_, htext⟩

theorem absent_nil : form.Absent [] := by
  intro n body k behind h
  rcases h.exists_cons with ⟨rest, hrest⟩
  cases hrest

theorem absent_cons {a : Char} (ha : a ≠ form.delimiter) (rest : List Char) :
    form.Absent (a :: rest) := by
  intro n body k behind h
  rcases h.exists_cons with ⟨rest', hrest⟩
  exact ha (List.cons.inj hrest).1

/-- Two entities with which a text begins are one if they have the same number of opening
delimiters. -/
theorem At.unique {text body behind body' behind' : List Char} {n k k' : Nat}
    (h : form.At text n body k behind) (h' : form.At text n body' k' behind') :
    body = body' ∧ k = k' ∧ behind = behind' := by
  have hsame : body ++ (List.replicate k form.delimiter ++ behind) =
      body' ++ (List.replicate k' form.delimiter ++ behind') := by
    have htext := h.text_eq
    rw [h'.text_eq] at htext
    exact (List.append_cancel_left htext).symm
  rcases form.settled h.entity h'.entity hsame with ⟨rfl, rfl⟩
  exact ⟨rfl, rfl, List.append_cancel_left (List.append_cancel_left hsame)⟩

theorem plain_marked (n : Nat) (body : List Char) (k : Nat) :
    plain (form.marked n body k) =
      List.replicate n form.delimiter ++ (body ++ List.replicate k form.delimiter) := by
  simp [marked, plain, ofText, Function.comp_def]

/-- Of an entity the delimiters are marked and the body is not. -/
theorem mem_marked {n k : Nat} {body : List Char} {g : Glyph} (hg : g ∈ form.marked n body k) :
    g.char = form.delimiter ∧ g.escaped = true ∨ g.char ∈ body ∧ g.escaped = false := by
  rcases List.mem_append.1 hg with hg | hg
  · rw [List.eq_of_mem_replicate hg]
    exact Or.inl ⟨rfl, rfl⟩
  · rcases List.mem_append.1 hg with hg | hg
    · exact Or.inr (mem_ofText.1 hg)
    · rw [List.eq_of_mem_replicate hg]
      exact Or.inl ⟨rfl, rfl⟩

/-! ## Markings -/

namespace Marking

variable {text : List Char} {gs hs : List Glyph}

theorem plain_eq (h : form.Marking text gs) : plain gs = text := by
  induction h with
  | stop => rfl
  | skip _ _ ih => rw [plain_cons, ih]
  | take hat _ _ ih => rw [plain_append, plain_marked, ih, hat.text_eq]; simp

/-- A form marks each text in one way only. -/
theorem unique (h : form.Marking text gs) (h' : form.Marking text hs) : gs = hs := by
  induction h generalizing hs with
  | stop =>
    cases h' with
    | stop => rfl
    | take hat => exact absurd hat (absent_nil _ _ _ _)
  | skip hnone _ ih =>
    cases h' with
    | skip _ next => rw [ih next]
    | take hat => exact absurd hat (hnone _ _ _ _)
  | take hat hmost _ ih =>
    cases h' with
    | stop => exact absurd hat (absent_nil _ _ _ _)
    | skip hnone => exact absurd hat (hnone _ _ _ _)
    | take hat' hmost' next =>
      -- Each has at least as many opening delimiters as the other, so they are one.
      obtain rfl := Nat.le_antisymm (hmost' _ _ _ _ hat) (hmost _ _ _ _ hat')
      rcases hat.unique hat' with ⟨rfl, rfl, rfl⟩
      rw [ih next]

/-- A stretch without delimiters is skipped. -/
theorem skip_free {x : List Char} (hx : form.delimiter ∉ x) (next : form.Marking text gs) :
    form.Marking (x ++ text) (ofText false x ++ gs) := by
  induction x with
  | nil => exact next
  | cons a x ih =>
    have ha := List.ne_of_not_mem_cons hx
    exact .skip (absent_cons ha.symm _) (ih (List.not_mem_of_not_mem_cons hx))

/-- Only delimiters are marked. -/
theorem char_eq (h : form.Marking text gs) {g : Glyph} (hg : g ∈ gs) (he : g.escaped = true) :
    g.char = form.delimiter := by
  induction h with
  | stop => cases hg
  | skip _ _ ih =>
    rcases List.mem_cons.1 hg with rfl | hg
    · cases he
    · exact ih hg
  | take _ _ _ ih =>
    rcases List.mem_append.1 hg with hg | hg
    · rcases mem_marked hg with ⟨hchar, -⟩ | ⟨-, hunmarked⟩
      · exact hchar
      · rw [hunmarked] at he
        cases he
    · exact ih hg

/-- Wherever an entity begins, its first character is marked, if bodies hold no delimiter. -/
theorem escaped_of_at (hsolid : form.Solid) (h : form.Marking text gs)
    {before behind : List Glyph} {g : Glyph} (hgs : gs = before ++ g :: behind) {n k : Nat}
    {body after : List Char} (hat : form.At (plain (g :: behind)) n body k after) :
    g.escaped = true := by
  have hchar : g.char = form.delimiter := by
    rcases hat.exists_cons with ⟨rest, hrest⟩
    exact (List.cons.inj hrest).1
  induction h generalizing before with
  | stop => simp at hgs
  | @skip a rest gs hnone next ih =>
    cases before with
    | nil =>
      -- The character is skipped, so no entity begins there.
      rcases List.cons.inj hgs with ⟨rfl, rfl⟩
      rw [plain_cons, next.plain_eq] at hat
      exact absurd hat (hnone _ _ _ _)
    | cons b before =>
      exact ih (List.cons.inj hgs).2
  | @take text body' behind' n' k' gs hat' hmost next ih =>
    rcases split_append hgs with ⟨rest, hmarked, -⟩ | ⟨front, hgs, -⟩
    · -- It belongs to an entity that has been taken, and it does not belong to the body.
      have hg : g ∈ form.marked n' body' k' := by simp [hmarked]
      rcases mem_marked hg with ⟨-, he⟩ | ⟨hbody, -⟩
      · exact he
      · rw [hchar] at hbody
        exact absurd hbody (hsolid hat'.entity)
    · exact ih hgs

end Marking

/-! ## The forms of the rules -/

/-- What lies before the first `d` is settled by the text. -/
theorem append_cons_inj_of_not_mem {x y u v : List Char} {d : Char} (hx : d ∉ x) (hy : d ∉ y)
    (h : x ++ d :: u = y ++ d :: v) : x = y ∧ u = v := by
  rcases split_append h with ⟨rest, rfl, -⟩ | ⟨front, hfront, rfl⟩
  · simp at hx
  · cases front with
    | nil => exact ⟨(List.append_nil x).symm, (List.cons.inj hfront).2⟩
    | cons a front =>
      obtain rfl := (List.cons.inj hfront).1
      simp at hy

/-- The same run of at least `least` delimiters on both sides of a body without any. The body may be
empty if the form is `hollow`. -/
def paired (d : Char) (least : Nat) (hollow : Bool) (hleast : 0 < least) : Form where
  delimiter := d
  Entity n body k _ := least ≤ n ∧ k = n ∧ d ∉ body ∧ (body = [] → hollow = true)
  opens h := Nat.lt_of_lt_of_le hleast h.1
  settled := by
    rintro n body k behind body' k' behind' ⟨hn, rfl, hbody, -⟩ ⟨-, rfl, hbody', -⟩ h
    rcases Nat.exists_eq_add_one.2 (Nat.lt_of_lt_of_le hleast hn) with ⟨m, rfl⟩
    rw [List.replicate_succ, List.cons_append, List.cons_append] at h
    exact ⟨(append_cons_inj_of_not_mem hbody hbody' h).1, rfl⟩

theorem solid_paired {d : Char} {least : Nat} {hollow : Bool} {hleast : 0 < least} :
    (paired d least hollow hleast).Solid := fun _ _ _ _ h => h.2.2.1

/-- Single underscores on both sides of a body without any, the second one at the end of a word. -/
def underscored : Form where
  delimiter := '_'
  Entity n body k behind := n = 1 ∧ k = 1 ∧ body ≠ [] ∧ '_' ∉ body ∧
    behind.head?.any Text.isWord = false
  opens h := by rw [h.1]; decide
  settled := by
    rintro n body k behind body' k' behind' ⟨rfl, rfl, -, hbody, -⟩ ⟨-, rfl, -, hbody', -⟩ h
    exact ⟨(append_cons_inj_of_not_mem hbody hbody' h).1, rfl⟩

theorem solid_underscored : underscored.Solid := fun _ _ _ _ h => h.2.2.2.1

/-- An opening bracket and everything up to the next closing one, unless a caret comes first. -/
def bracketed : Form where
  delimiter := '['
  Entity n body k _ := n = 1 ∧ k = 0 ∧ body.head? ≠ some '^' ∧
    ∃ inner, body = inner ++ [']'] ∧ ']' ∉ inner
  opens h := by rw [h.1]; decide
  settled := by
    rintro n body k behind body' k' behind' ⟨rfl, rfl, -, inner, rfl, hinner⟩
      ⟨-, rfl, -, inner', rfl, hinner'⟩ h
    rw [List.append_assoc, List.append_assoc] at h
    exact ⟨by rw [(append_cons_inj_of_not_mem hinner hinner' h).1], rfl⟩

end Form

end LiteralMarkdown
