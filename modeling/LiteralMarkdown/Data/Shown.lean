import LiteralMarkdown.Data.Basic
import LiteralMarkdown.Decimal.Shortest
import LiteralMarkdown.Text.Quoted

/-!
# Data in messages

How a message shows plain data: texts in quotes unless the value is nothing but a text, and words of
their own for null, truth values and numbers that are not finite. Where there is little room, only
the beginning and the end of a long value are shown.
-/

namespace LiteralMarkdown.Data

/-- Doubles are shown in their shortest decimal, with an exponent of two digits or more below
`1e-04` and from `1e+16` on. -/
def shownStyle : Decimal.Style := ⟨-4, 15, 2⟩

/-- How a message shows a double. -/
def shownFloat (x : Float) : String :=
  if x.isNaN then "nan"
  else if x.isInf then (if x < 0.0 then "-inf" else "inf")
  else Decimal.write shownStyle x

/-- How a message shows a byte between quotes of one kind. -/
def shownByte (quote : Char) (byte : UInt8) : List Char :=
  let c := Char.ofNat byte.toNat
  if byte < 0x7f then Text.quotedChar quote c else '\\' :: 'x' :: Text.hexCode 2 byte.toNat

/-- How a message shows bytes. -/
def shownBytes (content : List UInt8) : String :=
  let quote := Text.quoteFor (content.map fun byte => Char.ofNat byte.toNat)
  String.ofList ('b' :: quote :: content.flatMap (shownByte quote) ++ [quote])

/-- How a message shows something that is made of numbers. -/
def shownParts (name : String) (parts : List String) : String :=
  "datetime." ++ name ++ "(" ++ ", ".intercalate parts ++ ")"

/-- The numbers of a day. -/
def dayParts (d : Day) : List String := [d.year, d.month, d.day].map toString

/-- How a message shows how far a zone is ahead. -/
def shownOffset (minutes : Int) : String :=
  let days := Int.fdiv minutes 1440
  let seconds := (minutes - days * 1440) * 60
  let dayPart := if days = 0 then [] else ["days=" ++ toString days]
  let secondPart := if seconds = 0 then [] else ["seconds=" ++ toString seconds]
  if minutes = 0 then "datetime.timezone.utc"
  else shownParts "timezone" [shownParts "timedelta" (dayPart ++ secondPart)]

/-- How a message shows a time: seconds and their fractions are left out if they are zero. -/
def shownMoment (t : Moment) : String :=
  let fraction := if t.microsecond = 0 then [] else [t.microsecond]
  let seconds := if t.second = 0 ∧ fraction.isEmpty then [] else t.second :: fraction
  let zone := t.offset.toList.map fun minutes => "tzinfo=" ++ shownOffset minutes
  shownParts "datetime" (dayParts t.day ++ (t.hour :: t.minute :: seconds).map toString ++ zone)

/-- Items between brackets. -/
def bracketed (opening closing : String) (items : List String) : String :=
  opening ++ ", ".intercalate items ++ closing

mutual

/-- How a message shows a value inside another one. -/
def shownInside : Data → String
  | .null => "None"
  | .bool true => "True"
  | .bool false => "False"
  | .int n => toString n
  | .float x => shownFloat x
  | .text s => Text.quoted s
  | .brokenText signs => Text.quotedSigns signs
  | .bytes content => shownBytes content
  | .day d => shownParts "date" (dayParts d)
  | .moment t => shownMoment t
  | .list items => bracketed "[" "]" (shownItems items)
  | .tuple [item] => "(" ++ item.shownInside ++ ",)"
  | .tuple items => bracketed "(" ")" (shownItems items)
  | .set [] => "set()"
  | .set items => bracketed "\x7b" "\x7d" (shownItems items)
  | .map pairs => bracketed "\x7b" "\x7d" (shownPairs pairs)
  | .listAround => "[...]"
  | .mapAround => "\x7b...\x7d"

/-- How a message shows items. -/
def shownItems : List Data → List String
  | [] => []
  | item :: items => item.shownInside :: shownItems items

/-- How a message shows the pairs of a mapping. -/
def shownPairs : List (Data × Data) → List String
  | [] => []
  | (key, value) :: pairs => (key.shownInside ++ ": " ++ value.shownInside) :: shownPairs pairs

end

/-- How a message shows a value. -/
def shown : Data → String
  | .text s => s
  | .brokenText signs => Text.spelled signs
  | value => value.shownInside

/-! ## Little room -/

/-- The longest beginning of a text that takes up at most so many bytes. -/
def takeBytes : (room : Nat) → List Char → List Char
  | _, [] => []
  | room, c :: rest => if c.utf8Size ≤ room then c :: takeBytes (room - c.utf8Size) rest else []

/-- A text in at most about fifty bytes: of a longer one the first 25 and the last 24 are left. -/
def abridged (s : String) : String :=
  if s.utf8ByteSize ≤ 50 then s
  else String.ofList (takeBytes 25 s.toList) ++ "..." ++
    String.ofList (takeBytes 24 s.toList.reverse).reverse

end LiteralMarkdown.Data
