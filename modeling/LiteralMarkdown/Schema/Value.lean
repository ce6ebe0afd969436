import LiteralMarkdown.Schema.Fault
import LiteralMarkdown.Text.Integer

/-!
# Simple values under a schema

Texts, lists of texts and whole numbers, read from plain data. Bytes count as the text that they
encode, and halves of surrogate pairs in a text as their codes. A whole number may also be given as
a truth value, as a double without a fraction, or as a text that writes one.
-/

namespace LiteralMarkdown.Schema

/-- The text that bytes encode, if they encode one. -/
def textOfBytes? (bytes : List UInt8) : Option String := String.fromUTF8? ⟨bytes.toArray⟩

/-- A text. -/
def checkText (value : Data) : Checked String :=
  match value with
  | .text s => .ok s
  | .bytes content =>
    match textOfBytes? content with
    | some s => .ok s
    | none => Checked.fail .notUnicode value
  | .brokenText signs => .ok (Text.spelled signs)
  | _ => Checked.fail .notString value

/-- A list of texts. Sets and tuples will do. -/
def checkTexts (value : Data) : Checked (List String) :=
  match value with
  | .list items | .tuple items | .set items => Checked.each checkText 0 items
  | _ => Checked.fail .notList value

/-! ## Whole numbers -/

/-- The least whole number that no double may reach, on either side of zero: two to the power of
63. -/
def doubleLimit : Nat := 9223372036854775808

/-- The whole number that a double is. -/
def integerOfFloat (x : Float) : Except FaultKind Int :=
  if !x.isFinite then .error .notFinite
  else match Decimal.wholeNumber? x with
    | none => .error .fractional
    | some n => if n.natAbs < doubleLimit then .ok n else .error .oversized

/-- A text without the point and the zeros that it ends in, if there is at least one zero. -/
def dropZeroFraction (s : List Char) : List Char :=
  match s.reverse.dropWhile (· == '0') with
  | '.' :: rest => if s.getLast? = some '0' then rest.reverse else s
  | _ => s

/-- Digits without the zeros in front of the first other digit, however many underscores there are
between these; of nothing but zeros and underscores the last one is left. -/
def dropLeadingZeros (s : List Char) : List Char :=
  match s with
  | '0' :: _ =>
    match s.dropWhile fun c => c == '0' || c == '_' with
    | [] => s.getLast?.toList
    | rest => rest
  | _ => s

/-- The whole number that a text writes: an optional sign and digits from `0` to `9`, with single
underscores between them, with a fraction of nothing but zeros if there is any, and with white space
around it. Texts of more than `Text.digitLimit` bytes are not read. -/
def integerOfText (s : String) : Except FaultKind Int :=
  let trimmed := Text.trim Text.isSpacing s.toList
  if Text.digitLimit < (String.ofList trimmed).utf8ByteSize then .error .oversized
  else
    let (negative, digits) := Text.splitSign (dropZeroFraction trimmed)
    let digits := if negative then digits else dropLeadingZeros digits
    match Text.readDigits? Text.plainDigitValue? 10 digits with
    | some n => .ok (Text.signed negative n)
    | none => .error .unreadableInteger

/-- The whole number that a value is or writes. -/
def integerOf : Data → Except FaultKind Int
  | .int n => .ok n
  | .bool b => .ok (if b then 1 else 0)
  | .float x => integerOfFloat x
  | .text s => integerOfText s
  | .bytes content =>
    match textOfBytes? content with
    | some s => integerOfText s
    | none => .error .unreadableInteger
  | .brokenText _ => .error .notUnicode
  | _ => .error .notInteger

/-- A whole number above zero. -/
def checkPositive (value : Data) : Checked Nat :=
  match integerOf value with
  | .error kind => Checked.fail kind value
  | .ok n => if 0 < n then .ok n.toNat else Checked.fail .notPositive value

/-- A whole number above zero, or null for none. -/
def checkLimit : Data → Checked (Option Nat)
  | .null => .ok none
  | value => (checkPositive value).map some

end LiteralMarkdown.Schema
