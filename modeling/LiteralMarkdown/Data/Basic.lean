import LiteralMarkdown.Data.Calendar
import LiteralMarkdown.Decimal.Whole
import LiteralMarkdown.Text.Sign

/-!
# Plain data

What a document of settings or the environment can hold, whatever it is written in: numbers, texts,
bytes, days and times, and collections of these. A collection can lie inside itself; there it is
told by its kind alone.
-/

namespace LiteralMarkdown

/-- Plain data. -/
inductive Data where
  | null
  | bool (b : Bool)
  | int (n : Int)
  | float (x : Float)
  | text (s : String)
  /-- A text that is no text of characters: there are halves of surrogate pairs in it. -/
  | brokenText (signs : List Text.Sign)
  | bytes (content : List UInt8)
  | day (d : Day)
  | moment (t : Moment)
  | list (items : List Data)
  | tuple (items : List Data)
  | set (items : List Data)
  | map (pairs : List (Data × Data))
  /-- A list that this is a part of. -/
  | listAround
  /-- A mapping that this is a part of. -/
  | mapAround
deriving Inhabited

namespace Data

/-- The text that signs make. -/
def ofSigns (signs : List Text.Sign) : Data :=
  match Text.charsOf? signs with
  | some chars => .text (String.ofList chars)
  | none => .brokenText signs

/-- Whether a value counts as absent: null, false, zero, and all that is empty. -/
def isVoid : Data → Bool
  | .null => true
  | .bool b => !b
  | .int n => n == 0
  | .float x => x == 0.0
  | .text s => s.isEmpty
  | .bytes content => content.isEmpty
  | .list items | .tuple items | .set items => items.isEmpty
  | .map pairs => pairs.isEmpty
  | .brokenText _ | .day _ | .moment _ | .listAround | .mapAround => false

mutual

/-- Whether all texts in a value are texts of characters. -/
def isWhole : Data → Bool
  | .brokenText _ => false
  | .list items | .tuple items | .set items => areWhole items
  | .map pairs => arePairsWhole pairs
  | _ => true

/-- Whether all texts in some values are texts of characters. -/
def areWhole : List Data → Bool
  | [] => true
  | item :: items => item.isWhole && areWhole items

/-- Whether all texts in some pairs are texts of characters. -/
def arePairsWhole : List (Data × Data) → Bool
  | [] => true
  | (key, value) :: pairs => key.isWhole && value.isWhole && arePairsWhole pairs

end

/-- What stands under a name among entries. -/
def valueOf? {α : Type} (name : String) (entries : List (Data × α)) : Option α :=
  (entries.find? fun
    | (.text key, _) => key = name
    | _ => false).map (·.2)

/-- The first key that is no text of characters. -/
def brokenKey? {α : Type} (entries : List (Data × α)) : Option Data :=
  (entries.find? fun
    | (.brokenText _, _) => true
    | _ => false).map (·.1)

/-- The word for the kind of a value in messages. -/
def kindName : Data → String
  | .null => "NoneType"
  | .bool _ => "bool"
  | .int _ => "int"
  | .float _ => "float"
  | .text _ | .brokenText _ => "str"
  | .bytes _ => "bytes"
  | .day _ => "date"
  | .moment _ => "datetime"
  | .list _ | .listAround => "list"
  | .tuple _ => "tuple"
  | .set _ => "set"
  | .map _ | .mapAround => "dict"

/-! ## Keys -/

/-- The whole number that a value is, if it is one. Truth values count as zero and one. -/
def wholeNumber? : Data → Option Int
  | .bool b => some (if b then 1 else 0)
  | .int n => some n
  | .float x => if x.isFinite then Decimal.wholeNumber? x else none
  | _ => none

/-- Whether two values are the same key of a mapping or the same member of a set. Numbers are the
same if they are equal, whatever they are written as. Collections are neither keys nor members. -/
def sameKey (a b : Data) : Bool :=
  match a, b with
  | .null, .null => true
  | .text s, .text t => s == t
  | .brokenText s, .brokenText t => s == t
  | .bytes s, .bytes t => s == t
  | .day d, .day e => d == e
  | .moment t, .moment u => t.same u
  | a, b =>
    match a.wholeNumber?, b.wholeNumber? with
    | some m, some n => m == n
    | none, none =>
      match a, b with
      | .float x, .float y => x == y || (x.isNaN && y.isNaN)
      | _, _ => false
    | _, _ => false

end Data

end LiteralMarkdown
