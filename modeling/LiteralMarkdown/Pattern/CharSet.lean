import LiteralMarkdown.Text.Blank
import LiteralMarkdown.Text.Digit
import LiteralMarkdown.Text.Word

/-!
# Sets of characters

A set of characters is what one step of a pattern accepts: single characters, spans and the classes
of word characters, blanks and digits, or everything but these. Each set has a written form in the
usual notation of patterns.
-/

namespace LiteralMarkdown

/-- One member of a set of characters. -/
inductive CharSet.Item where
  | one (c : Char)
  | span (first last : Char)
  | word
  | blank
  | digit
deriving DecidableEq, Repr

/-- The characters that some item holds, or if `negated` those that none holds. -/
structure CharSet where
  negated : Bool
  items : List CharSet.Item
deriving DecidableEq, Repr

namespace CharSet

/-- Whether the item holds the character. -/
def Item.has : Item → Char → Bool
  | .one x, c => c == x
  | .span first last, c => first.toNat ≤ c.toNat && c.toNat ≤ last.toNat
  | .word, c => Text.isWord c
  | .blank, c => Text.isBlank c
  | .digit, c => Text.isDigit c

/-- Whether the set holds the character. -/
def has (set : CharSet) (c : Char) : Bool :=
  (set.items.any fun item => item.has c) != set.negated

/-- The set of one character. -/
def only (c : Char) : CharSet := ⟨false, [.one c]⟩

/-- The characters of a list. -/
def oneOf (cs : List Char) : CharSet := ⟨false, cs.map .one⟩

/-- All characters but those of a list. -/
def noneOf (cs : List Char) : CharSet := ⟨true, cs.map .one⟩

/-- All characters. -/
def any : CharSet := ⟨true, []⟩

/-- The characters of one class. -/
def ofItem (item : Item) : CharSet := ⟨false, [item]⟩

/-! ## Written form -/

/-- The characters that stand for something else outside brackets. -/
def isOperator (c : Char) : Bool :=
  "\\*+?.()[]\x7b\x7d^$|".toList.contains c

/-- A character between brackets: the brackets, the caret and the backslash are escaped there. -/
def Item.charSource (c : Char) : String :=
  if c = ']' ∨ c = '[' ∨ c = '^' ∨ c = '\\' then "\\" ++ c.toString else c.toString

/-- An item between brackets. -/
def Item.source : Item → String
  | .one c => charSource c
  | .span first last => charSource first ++ "-" ++ charSource last
  | .word => "\\w"
  | .blank => "\\s"
  | .digit => "\\d"

/-- The written form of a set. A single character stands for itself, a single class for itself, and
all other sets are put in brackets. The dot is every character but a line feed, and the dot under
the flag `s` is every character. -/
def source : CharSet → String
  | ⟨false, [.one c]⟩ => if isOperator c then "\\" ++ c.toString else c.toString
  | ⟨false, [.word]⟩ => "\\w"
  | ⟨false, [.blank]⟩ => "\\s"
  | ⟨false, [.digit]⟩ => "\\d"
  | ⟨true, [.one '\n']⟩ => "."
  | ⟨true, []⟩ => "(?s:.)"
  | ⟨negated, items⟩ =>
    "[" ++ (if negated then "^" else "") ++ String.join (items.map Item.source) ++ "]"

end CharSet

end LiteralMarkdown
