import LiteralMarkdown.Decimal.Nearest
import LiteralMarkdown.Json.Shown
import LiteralMarkdown.Text.Integer

/-!
# Reading JSON

`Json.read` reads a text as one JSON value with blanks around it. Beside the standard it accepts the
words `NaN`, `Infinity` and `-Infinity` as numbers. What it gives is plain data, since codes in a
document can write halves of surrogate pairs, and texts with these are no JSON strings. A text that
is no JSON has a fault: its cause and the place where it shows, counted in characters. So has one
that asks for too much: a whole number of too many digits, or values inside values at too many
levels. Every reader takes the place that it stands at and gives what it has read and the place
after it.
-/

namespace LiteralMarkdown.Json

/-- Why a text is no JSON. -/
inductive Cause where
  | expectedValue
  | expectedName
  | expectedColon
  | expectedComma
  | unterminatedString
  | controlCharacter
  | badEscape
  | badCodeEscape
  | extraData
  | byteOrderMark
  /-- A whole number has more digits than are read. -/
  | tooManyDigits
  /-- A list or an object lies at a deeper level than is read. -/
  | tooDeep
deriving DecidableEq, Repr

/-- The wording of a cause. -/
def Cause.message : Cause → String
  | .expectedValue => "Expecting value"
  | .expectedName => "Expecting property name enclosed in double quotes"
  | .expectedColon => "Expecting ':' delimiter"
  | .expectedComma => "Expecting ',' delimiter"
  | .unterminatedString => "Unterminated string starting at"
  | .controlCharacter => "Invalid control character at"
  | .badEscape => "Invalid \\escape"
  | .badCodeEscape => "Invalid \\uXXXX escape"
  | .extraData => "Extra data"
  | .byteOrderMark => "Unexpected UTF-8 BOM (decode using utf-8-sig)"
  | .tooManyDigits => "Exceeds the limit of digits for a whole number"
  | .tooDeep => "Exceeds the limit of levels"

/-- Whether the text may be JSON, and only asks for too much. -/
def Cause.isLimit (cause : Cause) : Bool := cause = .tooManyDigits || cause = .tooDeep

/-- A cause and the index of the character at which it shows. -/
structure Fault where
  cause : Cause
  position : Nat
deriving DecidableEq, Repr

/-- The wording of a fault in a text. Lines and columns are counted from one. -/
def Fault.message (fault : Fault) (text : List Char) : String :=
  let before := text.take fault.position
  let line := before.count '\n' + 1
  let column := (before.reverse.takeWhile (· != '\n')).length + 1
  fault.cause.message ++ ": line " ++ toString line ++ " column " ++ toString column ++
    " (char " ++ toString fault.position ++ ")"

/-! ## Places -/

/-- A place in a text: how many characters lie behind it, and those ahead. -/
structure Place where
  position : Nat
  rest : List Char
deriving DecidableEq, Repr

/-- A fault at a place. -/
def Place.fault {α : Type} (p : Place) (cause : Cause) : Except Fault α :=
  .error ⟨cause, p.position⟩

/-- The place so many characters on. -/
def Place.skip (p : Place) (n : Nat) : Place := ⟨p.position + n, p.rest.drop n⟩

/-- Whether the character is a blank between the parts of a document. -/
def isGap (c : Char) : Bool := c == ' ' || c == '\t' || c == '\n' || c == '\r'

/-- The place after any blanks. -/
def Place.skipGap (p : Place) : Place := p.skip (p.rest.takeWhile isGap).length

/-! ## Texts in quotes -/

/-- The value of a hexadecimal digit. -/
def hexValue? (c : Char) : Option Nat :=
  if '0' ≤ c ∧ c ≤ '9' then some (c.toNat - '0'.toNat)
  else if 'a' ≤ c ∧ c ≤ 'f' then some (c.toNat - 'a'.toNat + 10)
  else if 'A' ≤ c ∧ c ≤ 'F' then some (c.toNat - 'A'.toNat + 10)
  else none

/-- The number that four hexadecimal digits write at the beginning of a text. -/
def fourHex? : List Char → Option Nat
  | a :: b :: c :: d :: _ => do
    let w ← hexValue? a
    let x ← hexValue? b
    let y ← hexValue? c
    let z ← hexValue? d
    return ((w * 16 + x) * 16 + y) * 16 + z
  | _ => none

/-- Whether the number is the first half of a surrogate pair. -/
def isHighSurrogate (n : Nat) : Bool := 0xD800 ≤ n && n ≤ 0xDBFF

/-- Whether the number is the second half of a surrogate pair. -/
def isLowSurrogate (n : Nat) : Bool := 0xDC00 ≤ n && n ≤ 0xDFFF

/-- What a letter after a backslash stands for, other than a code. -/
def shortEscape? : Char → Option Char
  | '\x22' => some '\x22'
  | '\\' => some '\\'
  | '/' => some '/'
  | 'b' => some '\x08'
  | 'f' => some '\x0c'
  | 'n' => some '\n'
  | 'r' => some '\r'
  | 't' => some '\t'
  | _ => none

/-- The sign written as a code after a backslash at the place of the letter `u`, and the number of
characters from that letter on that write it. A character outside the basic plane is written as two
codes. The digits of a code may not be the end of the text. -/
def codeEscape (p : Place) : Except Fault (Text.Sign × Nat) :=
  if (p.rest.drop 5).isEmpty then p.fault .badCodeEscape
  else match fourHex? (p.rest.drop 1) with
    | none => p.fault .badCodeEscape
    | some n =>
      match p.rest.drop 5 with
      | '\\' :: 'u' :: second =>
        if isHighSurrogate n ∧ second.drop 4 ≠ [] then
          match fourHex? second with
          | none => (p.skip 6).fault .badCodeEscape
          | some m =>
            if isLowSurrogate m then
              .ok (.ofCode (0x10000 + (n - 0xD800) * 0x400 + (m - 0xDC00)), 11)
            else .ok (.ofCode n, 5)
        else .ok (.ofCode n, 5)
      | _ => .ok (.ofCode n, 5)

/-- The text up to the closing quote, given what has been read of it, in reverse, since the opening
quote at index `start`. Every step passes a character, so the number of characters ahead is enough
fuel. -/
def stringFrom (start : Nat) :
    (fuel : Nat) → Place → (done : List Text.Sign) → Except Fault (Data × Place)
  | 0, _, _ => .error ⟨.unterminatedString, start⟩
  | fuel + 1, p, done =>
    match p.rest with
    | [] => .error ⟨.unterminatedString, start⟩
    | '\x22' :: _ => .ok (.ofSigns done.reverse, p.skip 1)
    | '\\' :: rest =>
      match rest with
      | [] => .error ⟨.unterminatedString, start⟩
      | 'u' :: _ => do
        let (sign, length) ← codeEscape (p.skip 1)
        stringFrom start fuel (p.skip (1 + length)) (sign :: done)
      | letter :: _ =>
        match shortEscape? letter with
        | none => p.fault .badEscape
        | some c => stringFrom start fuel (p.skip 2) (.char c :: done)
    | c :: _ =>
      if c.toNat < 0x20 then p.fault .controlCharacter
      else stringFrom start fuel (p.skip 1) (.char c :: done)

/-- The text in quotes whose opening quote lies just ahead. -/
def readString (fuel : Nat) (p : Place) : Except Fault (Data × Place) :=
  stringFrom p.position fuel (p.skip 1) []

/-! ## Numbers -/

/-- The number that decimal digits write. -/
def digitsValue (digits : List Char) : Nat :=
  digits.foldl (fun n c => n * 10 + (c.toNat - '0'.toNat)) 0

/-- The digits of a whole number at the beginning of a text: a zero, or digits that begin with
another one. -/
def wholeDigits : List Char → List Char
  | '0' :: _ => ['0']
  | cs => cs.takeWhile Char.isDigit

/-- The digits after a point at the beginning of a text. A point without digits is no fraction. -/
def fractionDigits : List Char → List Char
  | '.' :: cs => cs.takeWhile Char.isDigit
  | _ => []

/-- The exponent at the beginning of a text and the number of characters that write it. -/
def exponentPart? : List Char → Option (Int × Nat)
  | e :: cs =>
    if e = 'e' ∨ e = 'E' then
      let (negative, signs, digits) := match cs with
        | '-' :: ds => (true, 1, ds.takeWhile Char.isDigit)
        | '+' :: ds => (false, 1, ds.takeWhile Char.isDigit)
        | ds => (false, 0, ds.takeWhile Char.isDigit)
      if digits.isEmpty then none
      else
        let n : Int := digitsValue digits
        some (if negative then -n else n, 1 + signs + digits.length)
    else none
  | [] => none

/-- A number at a place: a whole number unless it has a fraction or an exponent. -/
def readNumber (p : Place) : Except Fault (Data × Place) :=
  let negative := p.rest.head? = some '-'
  let sign := if negative then 1 else 0
  let whole := wholeDigits (p.rest.drop sign)
  if whole.isEmpty then p.fault .expectedValue
  else
    let fraction := fractionDigits (p.rest.drop (sign + whole.length))
    let point := if fraction.isEmpty then 0 else fraction.length + 1
    let exponent? := exponentPart? (p.rest.drop (sign + whole.length + point))
    let length := sign + whole.length + point + (exponent?.map (·.2)).getD 0
    if fraction.isEmpty ∧ exponent?.isNone then
      let n : Int := digitsValue whole
      if Text.digitLimit < whole.length then p.fault .tooManyDigits
      else .ok (.int (if negative then -n else n), p.skip length)
    else
      let exponent := (exponent?.map (·.1)).getD 0 - fraction.length
      let x := Decimal.toFloat (digitsValue (whole ++ fraction)) exponent
      .ok (.float (if negative then -x else x), p.skip length)

/-! ## Values -/

/-- The words that stand for values. -/
def words : List (String × Data) :=
  [("null", .null), ("true", .bool true), ("false", .bool false), ("NaN", .float (0.0 / 0.0)),
    ("Infinity", .float (1.0 / 0.0)), ("-Infinity", .float (-1.0 / 0.0))]

/-- The word at a place, if there is one. -/
def readWord? (p : Place) : Option (Data × Place) :=
  (words.find? fun word => word.1.toList.isPrefixOf p.rest).map
    fun word => (word.2, p.skip word.1.length)

/-- Named values with one of them set: in its place if the name is there, else at the end. -/
def setField (fields : List (Data × Data)) (name value : Data) : List (Data × Data) :=
  match fields with
  | [] => [(name, value)]
  | (other, old) :: rest =>
    if other.sameKey name then (other, value) :: rest
    else (other, old) :: setField rest name value

/-- Named values without repeated names: of two values of one name the later one stays, in the place
of the earlier one. -/
def distinct (fields : List (Data × Data)) : List (Data × Data) :=
  fields.foldl (fun done field => setField done field.1 field.2) []

/-- The number of levels at which lists and objects are read. -/
def levelLimit : Nat := 980

mutual

/-- The value at a place, with so many levels left for lists and objects. Every value and every next
part of one begins with a character of its own, and only the first part of a list or an object
stands at the same place as its value. So twice the number of characters ahead is enough fuel. -/
def readValue : (fuel levels : Nat) → Place → Except Fault (Data × Place)
  | 0, _, p => p.fault .expectedValue
  | fuel + 1, levels, p =>
    match p.rest, levels with
    | '\x22' :: _, _ => readString (fuel + 1) p
    | '[' :: _, 0 | '\x7b' :: _, 0 => p.fault .tooDeep
    | '[' :: _, levels + 1 =>
      let p := (p.skip 1).skipGap
      match p.rest with
      | ']' :: _ => .ok (.list [], p.skip 1)
      | _ => do
        let (items, after) ← readItems fuel levels p
        return (.list items, after)
    | '\x7b' :: _, levels + 1 =>
      let p := (p.skip 1).skipGap
      match p.rest with
      | '\x7d' :: _ => .ok (.map [], p.skip 1)
      | _ => do
        let (fields, after) ← readFields fuel levels p
        return (.map (distinct fields), after)
    | _, _ =>
      match readWord? p with
      | some word => .ok word
      | none => readNumber p

/-- The items of a list from a place on, up to and with the closing bracket. -/
def readItems : (fuel levels : Nat) → Place → Except Fault (List Data × Place)
  | 0, _, p => p.fault .expectedValue
  | fuel + 1, levels, p => do
    let (item, after) ← readValue fuel levels p
    let p := after.skipGap
    match p.rest with
    | ']' :: _ => return ([item], p.skip 1)
    | ',' :: _ => do
      let (items, after) ← readItems fuel levels (p.skip 1).skipGap
      return (item :: items, after)
    | _ => p.fault .expectedComma

/-- The named values of an object from a place on, up to and with the closing brace. -/
def readFields : (fuel levels : Nat) → Place → Except Fault (List (Data × Data) × Place)
  | 0, _, p => p.fault .expectedName
  | fuel + 1, levels, p =>
    match p.rest with
    | '\x22' :: _ => do
      let (name, after) ← readString (fuel + 1) p
      let p := after.skipGap
      match p.rest with
      | ':' :: _ => do
        let (value, after) ← readValue fuel levels (p.skip 1).skipGap
        let p := after.skipGap
        match p.rest with
        | '\x7d' :: _ => return ([(name, value)], p.skip 1)
        | ',' :: _ => do
          let (fields, after) ← readFields fuel levels (p.skip 1).skipGap
          return ((name, value) :: fields, after)
        | _ => p.fault .expectedComma
      | _ => p.fault .expectedColon
    | _ => p.fault .expectedName

end

/-- The data that a text writes, with at most so many levels. -/
def readDataWithin (levels : Nat) (text : List Char) : Except Fault Data :=
  match text with
  | '\uFEFF' :: _ => .error ⟨.byteOrderMark, 0⟩
  | _ => do
    let (value, after) ← readValue (2 * text.length + 2) levels (Place.mk 0 text).skipGap
    let p := after.skipGap
    if p.rest.isEmpty then return value else p.fault .extraData

/-- The value that a text writes, with at most so many levels. -/
def readWithin (levels : Nat) (text : List Char) : Except Fault Json :=
  (readDataWithin levels text).map ofData

/-- The data that a text writes. -/
def read (text : List Char) : Except Fault Data := readDataWithin levelLimit text

end LiteralMarkdown.Json
