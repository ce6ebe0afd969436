import LiteralMarkdown.Text.Integer

/-!
# Written numbers and quoted texts

How single values are written one after the other. A number has a base, or a fraction, an exponent
and an imaginary unit, with single underscores between digits. A text stands in quotes, which are
tripled if it has several lines; in it a backslash begins a code, unless the text is raw. Every
reader gives what is left of the text behind the value, or nothing if there is no such value.
-/

namespace LiteralMarkdown.Text.Literal

/-- Whether a name can have the character in it. -/
def isInName (c : Char) : Bool := c.isAlphanum || c == '_' || decide (128 ≤ c.toNat)

/-- Whether the character ends a line. -/
def isLineEnd (c : Char) : Bool := c == '\n' || c == '\r'

/-- Whether the character is a hexadecimal digit. -/
def isHexDigit (c : Char) : Bool := (digitIn? 16 c).isSome && decide (c.toNat < 128)

/-! ## Numbers -/

/-- The digits that follow a digit, and what is left. -/
def moreDigits? (isDigit : Char → Bool) : List Char → Option (List Char × List Char)
  | [] => some ([], [])
  | '_' :: rest =>
    if rest.head?.any isDigit then moreDigits? isDigit rest else none
  | c :: rest =>
    if isDigit c then (moreDigits? isDigit rest).map fun (digits, rest) => (c :: digits, rest)
    else some ([], c :: rest)

/-- The digits that a text begins with, and what is left. -/
def digits? (isDigit : Char → Bool) (s : List Char) : Option (List Char × List Char) :=
  if s.head?.any isDigit then moreDigits? isDigit s else none

/-- The digits of a base that is marked by a letter. -/
def digitOfMark? (mark : Char) : Option (Char → Bool) :=
  match mark.toLower with
  | 'x' => some isHexDigit
  | 'o' => some fun c => '0' ≤ c && c ≤ '7'
  | 'b' => some fun c => c == '0' || c == '1'
  | _ => none

/-- What is left behind a number in a base that is marked. -/
def based? : List Char → Option (List Char)
  | '0' :: mark :: rest => do
    let isDigit ← digitOfMark? mark
    let rest := if rest.head? = some '_' then rest.drop 1 else rest
    return (← digits? isDigit rest).2
  | _ => none

/-- What is left behind the fraction that a text begins with, if there is one. -/
def fraction? : List Char → Option (Option (List Char))
  | '.' :: rest =>
    if rest.head?.any Char.isDigit then (digits? Char.isDigit rest).map fun (_, rest) => some rest
    else some (some rest)
  | _ => some none

/-- What is left behind the exponent that a text begins with, if there is one. -/
def exponent? : List Char → Option (Option (List Char))
  | e :: rest =>
    let (_, digits) := splitSign rest
    if e.toLower = 'e' ∧ digits.head?.any Char.isDigit then
      (digits? Char.isDigit digits).map fun (_, rest) => some rest
    else some none
  | [] => some none

/-- Whether a number in base ten is imaginary, and what is left behind it. A whole number has no
zeros in front of it. -/
def decimal? (s : List Char) : Option (Bool × List Char) := do
  let (whole, afterWhole) ←
    if s.head?.any Char.isDigit then digits? Char.isDigit s else some ([], s)
  let fraction ← fraction? afterWhole
  let exponent ← exponent? (fraction.getD afterWhole)
  let rest := exponent.getD (fraction.getD afterWhole)
  if rest.head?.any fun c => c.toLower == 'j' then return (true, rest.drop 1)
  if fraction.isNone ∧ exponent.isNone ∧
      (digitLimit < whole.length ∨ whole.head? = some '0' ∧ ¬ whole.all (· == '0')) then none
  return (false, rest)

/-- Whether a number is imaginary, and what is left behind it. No name begins right behind it. -/
def number? (s : List Char) : Option (Bool × List Char) := do
  let isBased := match s with
    | '0' :: mark :: _ => (digitOfMark? mark).isSome
    | _ => false
  let (imaginary, rest) ←
    if isBased then (based? s).map fun rest => (false, rest) else decimal? s
  if rest.head?.any isInName then none else return (imaginary, rest)

/-- Whether a text begins with a number: with a digit or with a point and a digit. -/
def beginsNumber : List Char → Bool
  | '.' :: c :: _ => c.isDigit
  | c :: _ => c.isDigit
  | [] => false

/-! ## Quoted texts -/

/-- How a text is quoted. -/
structure Quoting where
  quote : Char
  /-- Whether the quotes are tripled. -/
  tripled : Bool
  /-- Whether a backslash means nothing but itself. -/
  raw : Bool
  /-- Whether the text stands for bytes. -/
  bytes : Bool

/-- Whether so many hexadecimal digits follow. -/
def hasHexCode (length : Nat) (s : List Char) : Bool :=
  decide (length ≤ s.length) && (s.take length).all isHexDigit

/-- The number that hexadecimal digits write. -/
def hexValue (s : List Char) : Nat := ofDigits 16 (s.filterMap (digitIn? 16))

/-- Whether the name of a character in braces follows. -/
def hasCharName : List Char → Bool
  | '{' :: rest =>
    let name := rest.takeWhile fun c => c.isAlphanum || c == ' ' || c == '-'
    !name.isEmpty && (rest.drop name.length).head? == some '}'
  | _ => false

/-- Whether the character behind a backslash begins a code that is complete. -/
def Quoting.allowsCode (form : Quoting) (c : Char) (rest : List Char) : Bool :=
  if form.raw then true
  else match c with
    | 'x' => hasHexCode 2 rest
    | 'u' => form.bytes || hasHexCode 4 rest
    | 'U' => form.bytes || hasHexCode 8 rest && decide (hexValue (rest.take 8) < 0x110000)
    | 'N' => form.bytes || hasCharName rest
    | _ => true

/-- Whether the quotes of a form end here, given what follows the first one of them. -/
def Quoting.endsBefore (form : Quoting) (rest : List Char) : Bool :=
  !form.tripled || [form.quote, form.quote].isPrefixOf rest

/-- What is left behind the end of a quoted text. -/
def Quoting.close? (form : Quoting) : List Char → Option (List Char)
  | [] => none
  | [c] => if c = form.quote ∧ !form.tripled then some [] else none
  | c :: d :: rest =>
    if c = form.quote ∧ form.endsBefore (d :: rest) then
      some ((d :: rest).drop (if form.tripled then 2 else 0))
    else if form.bytes ∧ 128 ≤ c.toNat then none
    else if isLineEnd c ∧ !form.tripled then none
    else if c ≠ '\\' then form.close? (d :: rest)
    else if form.bytes ∧ 128 ≤ d.toNat ∨ !form.allowsCode d rest then none
    else form.close? rest

/-- Whether the letters in front of a quote make a text raw, and whether they make it bytes. -/
def letters? (s : List Char) : Option (Bool × Bool) :=
  match s.map Char.toLower with
  | [] | ['u'] => some (false, false)
  | ['r'] => some (true, false)
  | ['b'] => some (false, true)
  | ['b', 'r'] | ['r', 'b'] => some (true, true)
  | _ => none

/-- Whether a quoted text stands for bytes, and what is left behind it. -/
def text? (s : List Char) : Option (Bool × List Char) := do
  let letters := s.takeWhile isInName
  let (raw, bytes) ← letters? letters
  match s.drop letters.length with
  | quote :: rest =>
    if quote != '\x27' && quote != '\x22' then none
    let tripled := [quote, quote].isPrefixOf rest
    let form : Quoting := { quote, tripled, raw, bytes }
    return (bytes, ← form.close? (rest.drop (if tripled then 2 else 0)))
  | [] => none

end LiteralMarkdown.Text.Literal
