/-!
# Places in a YAML text

A spot is a place in a text with its line and column. Lines end at line feeds and at the other
breaks that YAML knows; a byte order mark takes up no column.
-/

namespace LiteralMarkdown.Yaml

/-- Whether the character ends a line. -/
def isBreak (c : Char) : Bool :=
  c == '\n' || c == '\r' || c == '\x85' || c == '\u2028' || c == '\u2029'

/-- What a break counts for in a folded text: a line feed, unless it is one of the two separators.
-/
def foldedBreak (c : Char) : Char := if c = '\u2028' ∨ c = '\u2029' then c else '\n'

/-- Whether the character is a letter, a digit, a dash or an underscore. -/
def isNameChar (c : Char) : Bool := c.isAlphanum || c == '-' || c == '_'

/-- Whether the character is a hexadecimal digit. -/
def isHexDigit (c : Char) : Bool :=
  c.isDigit || ('a' ≤ c && c ≤ 'f') || ('A' ≤ c && c ≤ 'F')

/-- The number that hexadecimal digits write. -/
def hexNumber (digits : List Char) : Nat :=
  digits.foldl (fun n c => n * 16 +
    (if c.isDigit then c.toNat - '0'.toNat
      else if 'a' ≤ c then c.toNat - 'a'.toNat + 10 else c.toNat - 'A'.toNat + 10)) 0

/-- A place in a text: how many characters, and how many lines, lie behind it, its column, and what
lies ahead. -/
structure Spot where
  index : Nat
  line : Nat
  column : Nat
  rest : List Char
deriving DecidableEq, Repr

namespace Spot

/-- The place before the first character of a text. -/
def atStart (text : List Char) : Spot := ⟨0, 0, 0, text⟩

/-- The character so many places on. -/
def peek (s : Spot) (n : Nat) : Option Char := s.rest[n]?

/-- The next character. -/
def head (s : Spot) : Option Char := s.rest.head?

/-- The place after the next character. -/
def next (s : Spot) : Spot :=
  match s.rest with
  | [] => s
  | c :: rest =>
    if isBreak c then ⟨s.index + 1, s.line + 1, 0, rest⟩
    else ⟨s.index + 1, s.line, if c = '\uFEFF' then s.column else s.column + 1, rest⟩

/-- The place so many characters on. -/
def forward : Nat → Spot → Spot
  | 0, s => s
  | n + 1, s => forward n s.next

/-- The characters ahead that satisfy a condition, and the place after them. -/
def takeWhile (s : Spot) (condition : Char → Bool) : List Char × Spot :=
  let taken := s.rest.takeWhile condition
  (taken, s.forward taken.length)

/-- The place after the characters ahead that satisfy a condition. -/
def dropWhile (s : Spot) (condition : Char → Bool) : Spot := (s.takeWhile condition).2

/-- Whether a character is missing, or satisfies a condition. -/
def endOr (condition : Char → Bool) (c : Option Char) : Bool := c.all condition

/-- Whether a line or the text ends at a character. -/
def endsLine (c : Option Char) : Bool := endOr isBreak c

/-- Whether a word ends at a character: at a blank or at the end of a line. -/
def endsWord (c : Option Char) : Bool := endOr (fun c => c == ' ' || c == '\t' || isBreak c) c

/-- Whether a part of a directive or a header ends at a character: at a space or at the end of a
line. -/
def endsPart (c : Option Char) : Bool := endOr (fun c => c == ' ' || isBreak c) c

/-- Whether a mark between documents lies ahead. -/
def atSeparator (s : Spot) : Bool :=
  (s.rest.take 3 == ['-', '-', '-'] || s.rest.take 3 == ['.', '.', '.']) && endsWord (s.peek 3)

/-- The place after the blanks and the comment that may end a line. -/
def skipComment (s : Spot) : Spot :=
  let s := s.dropWhile (· == ' ')
  if s.head = some '#' then s.dropWhile fun c => !isBreak c else s

end Spot

end LiteralMarkdown.Yaml
