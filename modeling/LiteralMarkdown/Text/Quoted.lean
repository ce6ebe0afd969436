import LiteralMarkdown.Text.Printable

/-!
# Quoted texts

A text that is named in a message stands in single quotes, or in double quotes if it holds single
quotes and no double ones. The quote, the backslash and characters that do not show are escaped,
the latter by the shortest code that can write them.
-/

namespace LiteralMarkdown.Text

/-- A number in so many hexadecimal digits. -/
def hexCode : (width : Nat) → Nat → List Char
  | 0, _ => []
  | width + 1, n => hexCode width (n / 16) ++ [Nat.digitChar (n % 16)]

/-- A character between quotes of one kind. -/
def quotedChar (quote c : Char) : List Char :=
  if c = quote ∨ c = '\\' then ['\\', c]
  else if c = '\n' then ['\\', 'n']
  else if c = '\r' then ['\\', 'r']
  else if c = '\t' then ['\\', 't']
  else if isPrintable c then [c]
  else if c.toNat < 0x100 then '\\' :: 'x' :: hexCode 2 c.toNat
  else if c.toNat < 0x10000 then '\\' :: 'u' :: hexCode 4 c.toNat
  else '\\' :: 'U' :: hexCode 8 c.toNat

/-- The quote for a text. -/
def quoteFor (s : List Char) : Char :=
  if s.contains '\x27' ∧ ¬ s.contains '\x22' then '\x22' else '\x27'

/-- A text in quotes. -/
def quoted (s : String) : String :=
  let quote := quoteFor s.toList
  String.ofList (quote :: s.toList.flatMap (quotedChar quote) ++ [quote])

end LiteralMarkdown.Text
