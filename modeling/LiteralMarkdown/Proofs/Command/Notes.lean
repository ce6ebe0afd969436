import LiteralMarkdown.Command.Run
import LiteralMarkdown.Proofs.Pattern.Language
import LiteralMarkdown.Proofs.Pattern.Run

/-!
# What is shown as it is

A message without markup always makes a note, and a line without an escape character is printed as
it is. Both patterns begin at a character of their own, so that a text without it has no match.

* `exists_note_of_isPlain`: a message without markup makes a note;
* `printed_eq`: a line without an escape character is printed as it is.
-/

namespace LiteralMarkdown

open Pattern Cursor

/-! ## Texts without a match -/

/-- A pattern that begins at a character matches nothing in a text without it. -/
theorem Pattern.matchesIn_eq_nil {p : Pattern} {a : Char}
    (hp : ∀ c e : Cursor, e ∈ p.ends c → a ∈ c.textTo e) {text : List Char} (htext : a ∉ text) :
    p.matchesIn text = [] := by
  by_contra hne
  obtain ⟨m, hm⟩ := List.exists_mem_of_ne_nil _ hne
  obtain ⟨before, behind, hpieces, e, he, rfl⟩ := exists_end_of_mem_matchesIn hm
  have hmem := hp _ e he
  apply htext
  rw [hpieces]
  exact List.mem_append_left _ (List.mem_append_right _ hmem)

/-- Pieces of which none is a match are characters that are skipped. -/
theorem Pattern.eq_map_skipped {pieces : List Piece} (h : pieces.filterMap Piece.match? = []) :
    pieces = (pieces.flatMap Piece.text).map .skipped := by
  induction pieces with
  | nil => rfl
  | cons piece pieces ih =>
    cases piece with
    | found m => cases h
    | skipped a =>
      rw [List.flatMap_cons, Piece.text, List.map_append, ← ih h]
      rfl

/-- Where a pattern matches nothing, a scan skips every character. -/
theorem Pattern.scan_eq_skipped {p : Pattern} {text : List Char} (h : p.matchesIn text = []) :
    p.scan text = text.map .skipped := by
  calc p.scan text = ((p.scan text).flatMap Piece.text).map .skipped := eq_map_skipped h
    _ = text.map .skipped := by rw [flatMap_text_scan]

/-- Where a pattern matches nothing, nothing is replaced. -/
theorem Pattern.replaceAll_eq {p : Pattern} (replace : Match → List Char) {text : List Char}
    (h : p.matchesIn text = []) : p.replaceAll replace text = text := by
  unfold replaceAll
  rw [scan_eq_skipped h, List.flatMap_map]
  exact List.flatMap_singleton' text

namespace Command

/-! ## Notes -/

/-- No bracket in the message opens a tag. -/
def IsPlain (message : String) : Prop := Markup.tag.matchesIn message.toList = []

/-- A tag holds an opening bracket. -/
theorem isPlain_of_not_mem {message : String} (h : '[' ∉ message.toList) : IsPlain message := by
  refine Pattern.matchesIn_eq_nil (fun c e he => ?_) h
  rcases mem_ends_append.1 he with ⟨d, hd, he⟩
  rcases mem_ends_append.1 he with ⟨f, hf, he⟩
  rcases exists_reaches_of_mem_ends _ c d hd with ⟨x, hx⟩
  rcases (accepts_char_only '[' d f).1 hf with ⟨_, rfl, hbracket, rfl⟩
  rcases exists_reaches_of_mem_ends _ _ e he with ⟨y, hy⟩
  have hreach := (hx.trans (reaches_after hbracket)).trans hy
  rw [hreach.textTo_eq]
  simp

namespace Markup

/-- Characters outside tags wait until the next tag comes, whatever they are. -/
theorem foldlM_next?_skipped (shown : Shown) (text : List Char) :
    (text.map Piece.skipped).foldlM Shown.next? shown =
      some { shown with pending := text.reverse ++ shown.pending } := by
  induction text generalizing shown with
  | nil => rfl
  | cons a text ih =>
    have hnext : shown.next? (.skipped a) = some { shown with pending := a :: shown.pending } := rfl
    rw [List.map_cons, List.foldlM_cons, hnext, List.reverse_cons, List.append_assoc]
    exact ih _

/-- A text without tags shows, except for its backslashes and its emoji as it is. -/
theorem show?_eq {text : List Char} (h : tag.matchesIn text = []) :
    show? text = some (plain text) := by
  have hfold := foldlM_next?_skipped ⟨[], [], [], []⟩ text
  unfold show?
  rw [Pattern.scan_eq_skipped h, hfold]
  simp [Shown.finish?, Shown.settle]

end Markup

/-- A message without markup makes a note. -/
theorem exists_note_of_isPlain (mark : Char) {message : String} (h : IsPlain message) :
    ∃ note, note? mark message = some note := by
  unfold note?
  rw [Markup.show?_eq h]
  exact ⟨_, rfl⟩

/-! ## Lines -/

/-- A line without an escape character is printed as it is. -/
theorem printed_eq {line : String} (h : '\x1b' ∉ line.toList) : printed line = line ++ "\n" := by
  have hmatches : controlSequence.matchesIn line.toList = [] := by
    refine Pattern.matchesIn_eq_nil (fun c e he => ?_) h
    rcases mem_ends_append.1 he with ⟨d, hd, he⟩
    rcases (accepts_char_only '\x1b' c d).1 hd with ⟨_, rfl, hescape, rfl⟩
    rcases exists_reaches_of_mem_ends _ _ e he with ⟨x, hx⟩
    rw [((reaches_after hescape).trans hx).textTo_eq]
    simp
  unfold printed
  rw [Pattern.replaceAll_eq _ hmatches, String.ofList_toList]

end Command

end LiteralMarkdown
