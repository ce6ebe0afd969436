import LiteralMarkdown.Data.Shown
import LiteralMarkdown.Json.Basic

/-!
# JSON as plain data

A JSON value holds plain data, and messages show it as such. Data in which all texts are texts of
characters can be a JSON value in turn.
-/

namespace LiteralMarkdown.Json

mutual

/-- The data that a value holds. -/
def toData : Json → Data
  | .null => .null
  | .bool b => .bool b
  | .int n => .int n
  | .float x => .float x
  | .string s => .text s
  | .list items => .list (itemsToData items)
  | .object fields => .map (fieldsToData fields)

/-- The data that items hold. -/
def itemsToData : List Json → List Data
  | [] => []
  | item :: items => item.toData :: itemsToData items

/-- The data that named values hold. -/
def fieldsToData : List (String × Json) → List (Data × Data)
  | [] => []
  | (name, value) :: fields => (.text name, value.toData) :: fieldsToData fields

end

mutual

/-- The value that holds some data. What no value can hold is told as messages show it. -/
def ofData : Data → Json
  | .null => .null
  | .bool b => .bool b
  | .int n => .int n
  | .float x => .float x
  | .list items | .tuple items | .set items => .list (itemsOfData items)
  | .map pairs => .object (fieldsOfData pairs)
  | data => .string data.shown

/-- The values that hold some data. -/
def itemsOfData : List Data → List Json
  | [] => []
  | item :: items => ofData item :: itemsOfData items

/-- The named values that hold some pairs. -/
def fieldsOfData : List (Data × Data) → List (String × Json)
  | [] => []
  | (key, value) :: pairs => (key.shown, ofData value) :: fieldsOfData pairs

end

/-- How a message shows a value. -/
def shown (value : Json) : String := value.toData.shown

end LiteralMarkdown.Json
