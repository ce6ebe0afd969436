import LiteralMarkdown.Text.Blank
import LiteralMarkdown.Text.Digit

/-!
# Whole numbers in texts

A whole number is written in digits of any script, with an optional sign, blanks around it and
single underscores between digits. In other bases than ten, a mark may stand in front of the digits.
More than `digitLimit` decimal digits are not read.
-/

namespace LiteralMarkdown.Text

/-- The greatest number of decimal digits that is read. -/
def digitLimit : Nat := 4300

/-- A text without the characters at both ends that satisfy a condition. -/
def trim (condition : Char → Bool) (s : List Char) : List Char :=
  ((s.dropWhile condition).reverse.dropWhile condition).reverse

/-- The sign at the beginning of a text, whether it is a minus, and the rest. -/
def splitSign : List Char → Bool × List Char
  | '-' :: rest => (true, rest)
  | '+' :: rest => (false, rest)
  | s => (false, s)

/-- A number with its sign. -/
def signed (negative : Bool) (n : Nat) : Int := if negative then -(n : Int) else n

/-- The values of digits that may have single underscores between them, the last one first. The
digits before are given, and whether an underscore may stand here. -/
def digitsFrom (digit? : Char → Option Nat) (mayPause : Bool) :
    List Char → (done : List Nat) → Option (List Nat)
  | [], done => if mayPause then some done else none
  | c :: rest, done =>
    if c = '_' then if mayPause then digitsFrom digit? false rest done else none
    else match digit? c with
      | some d => digitsFrom digit? true rest (d :: done)
      | none => none

/-- The number whose digits in a base are given. -/
def ofDigits (base : Nat) (digits : List Nat) : Nat := digits.foldl (fun n d => n * base + d) 0

/-- The number that digits in a base write, with single underscores between them. -/
def readDigits? (digit? : Char → Option Nat) (base : Nat) (s : List Char) : Option Nat :=
  (digitsFrom digit? false s []).map fun digits => ofDigits base digits.reverse

/-- The value of a digit in a base: that of a decimal digit of any script, or from ten on that of a
letter. -/
def digitIn? (base : Nat) (c : Char) : Option Nat :=
  let value? := match digitValue? c with
    | some d => some d
    | none =>
      if 'a' ≤ c ∧ c ≤ 'z' then some (c.toNat - 'a'.toNat + 10)
      else if 'A' ≤ c ∧ c ≤ 'Z' then some (c.toNat - 'A'.toNat + 10)
      else none
  value?.filter (· < base)

/-- The letter that marks a base. -/
def baseMark? : (base : Nat) → Option Char
  | 2 => some 'b'
  | 8 => some 'o'
  | 16 => some 'x'
  | _ => none

/-- The text after the mark of a base, a zero and a letter, if there is one. -/
def dropMark (base : Nat) : List Char → List Char
  | '0' :: letter :: rest =>
    if baseMark? base = some letter.toLower then rest else '0' :: letter :: rest
  | s => s

/-- The whole number that a text writes in a base. -/
def readIntegerIn? (base : Nat) (s : List Char) : Option Int := do
  let (negative, text) := splitSign (trim isSpacing s)
  let digits ← digitsFrom (digitIn? base) false (dropMark base text) []
  if base = 10 ∧ digitLimit < digits.length then none
  else return signed negative (ofDigits base digits.reverse)

/-- The whole number that a text writes. -/
def readInteger? (s : List Char) : Option Int := readIntegerIn? 10 s

end LiteralMarkdown.Text
