import LiteralMarkdown.Decimal.Shortest
import LiteralMarkdown.Json.Basic

/-!
# Writing JSON

A JSON value is written on one line, with a blank after every comma and colon, or with one line for
every item and every named value, indented by their depth. Only the characters that have to be
escaped are: the quote, the backslash and the controls below U+0020.
-/

namespace LiteralMarkdown.Json

/-- Doubles are written in their shortest decimal, with an exponent of two digits or more below
`1e-04` and from `1e+16` on. -/
def numberStyle : Decimal.Style := ⟨-4, 15, 2⟩

/-- A double, finite or not. -/
def writeFloat (x : Float) : String :=
  if x.isNaN then "NaN"
  else if x.isInf then (if x < 0.0 then "-Infinity" else "Infinity")
  else Decimal.write numberStyle x

/-- The hexadecimal digit of a number below sixteen. -/
def hexDigit (n : Nat) : Char := Nat.digitChar n

/-- A character between quotes. -/
def escapedChar (c : Char) : List Char :=
  match c with
  | '\x22' => ['\\', '\x22']
  | '\\' => ['\\', '\\']
  | '\n' => ['\\', 'n']
  | '\r' => ['\\', 'r']
  | '\t' => ['\\', 't']
  | '\x08' => ['\\', 'b']
  | '\x0c' => ['\\', 'f']
  | c =>
    if c.toNat < 0x20 then ['\\', 'u', '0', '0', hexDigit (c.toNat / 16), hexDigit (c.toNat % 16)]
    else [c]

/-- A text in quotes. -/
def writeString (s : String) : String :=
  String.ofList ('\x22' :: s.toList.flatMap escapedChar ++ ['\x22'])

/-- How the parts of lists and objects are set apart: on one line, or on lines of their own with so
many blanks for every level. -/
inductive Layout where
  | line
  | indented (blanks : Nat)
deriving DecidableEq, Repr

/-- The line break before a part at a depth. -/
def Layout.lineBreak (blanks depth : Nat) : String := "\n" ++ "".pushn ' ' (blanks * depth)

/-- Written parts at a depth between brackets. -/
def Layout.enclose (layout : Layout) (depth : Nat) (opening closing : String)
    (parts : List String) : String :=
  if parts.isEmpty then opening ++ closing
  else match layout with
    | .line => opening ++ ", ".intercalate parts ++ closing
    | .indented blanks =>
      let lineBreak := lineBreak blanks (depth + 1)
      opening ++ lineBreak ++ ("," ++ lineBreak).intercalate parts ++
        Layout.lineBreak blanks depth ++ closing

mutual

/-- A value at a depth. -/
def writeAt (layout : Layout) (depth : Nat) : Json → String
  | .null => "null"
  | .bool true => "true"
  | .bool false => "false"
  | .int n => toString n
  | .float x => writeFloat x
  | .string s => writeString s
  | .list items => layout.enclose depth "[" "]" (writeItems layout (depth + 1) items)
  | .object fields => layout.enclose depth "\x7b" "\x7d" (writeFields layout (depth + 1) fields)

/-- The items of a list at a depth. -/
def writeItems (layout : Layout) (depth : Nat) : List Json → List String
  | [] => []
  | item :: items => writeAt layout depth item :: writeItems layout depth items

/-- The named values of an object at a depth. -/
def writeFields (layout : Layout) (depth : Nat) : List (String × Json) → List String
  | [] => []
  | (name, value) :: fields =>
    (writeString name ++ ": " ++ writeAt layout depth value) :: writeFields layout depth fields

end

/-- The written form of a value. -/
def write (layout : Layout) (value : Json) : String := writeAt layout 0 value

end LiteralMarkdown.Json
