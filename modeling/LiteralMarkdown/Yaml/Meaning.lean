import LiteralMarkdown.Data.Basic
import LiteralMarkdown.Text.Base64
import LiteralMarkdown.Yaml.Date
import LiteralMarkdown.Yaml.Node
import LiteralMarkdown.Yaml.Number

/-!
# What scalars stand for

The tag of a scalar tells what its text stands for: null, a truth value, a number, a text, bytes or
a point in time. A mapping can take the place of a scalar: the value of its key `=` does.
-/

namespace LiteralMarkdown.Yaml

/-- The word of the language that a tag consists of besides the stem. -/
def wordOf? (tag : String) : Option String :=
  if tagStem.toList.isPrefixOf tag.toList then
    some (String.ofList (tag.toList.drop tagStem.length))
  else none

namespace Nodes

/-- The text that a node has in place of a scalar. A mapping has that of the value of its first key
that is an equals sign. There are no more nodes on the way to the text than the document has. -/
def textFrom (nodes : Nodes) : (fuel : Nat) → (n : Nat) → Except Fault (List Text.Sign)
  | 0, _ => .error (.unusable .depth)
  | fuel + 1, n =>
    match nodes.node n with
    | .scalar _ text => .ok text
    | .sequence .. => .error (.wrongKind .scalar .sequence)
    | .mapping _ pairs =>
      match pairs.find? fun pair => nodes.hasKind .value pair.1 with
      | some (_, value) => nodes.textFrom fuel value
      | none => .error (.wrongKind .scalar .mapping)

/-- The signs of the text that a node has in place of a scalar. -/
def signsOf (nodes : Nodes) (n : Nat) : Except Fault (List Text.Sign) :=
  nodes.textFrom (nodes.size + 1) n

/-- The text that a node has in place of a scalar, with the codes of halves of surrogate pairs: no
text with such codes stands for a truth value, a number or a point in time. -/
def textOf (nodes : Nodes) (n : Nat) : Except Fault String := (nodes.signsOf n).map Text.spelled

end Nodes

/-! ## Readers of texts -/

/-- The truth value that a text stands for. Case does not count. -/
def readBool (text : String) : Except Unusable Bool :=
  let word := String.ofList (text.toList.map Char.toLower)
  if ["yes", "true", "on"].contains word then .ok true
  else if ["no", "false", "off"].contains word then .ok false
  else .error .truth

/-- Whether a sign is a character of ASCII. -/
def isAscii (sign : Text.Sign) : Bool := sign.char?.any fun c => c.toNat < 128

/-- How a report shows a sign that is not in ASCII. -/
def codeOf (sign : Text.Sign) : List Char :=
  match sign with
  | .half _ => sign.spelled
  | .char c =>
    let (letter, width) :=
      if c.toNat < 0x100 then ('x', 2) else if c.toNat < 0x10000 then ('u', 4) else ('U', 8)
    '\\' :: letter :: Text.hexCode width c.toNat

/-- What a report says of the first signs of a text that are not in ASCII, if there are any. -/
def outsideAscii? (text : List Text.Sign) : Option String :=
  let start := (text.takeWhile isAscii).length
  let place := " in position " ++ toString start
  let wrong := match (text.drop start).takeWhile fun sign => !isAscii sign with
    | [] => none
    | [sign] => some ("character '" ++ String.ofList (codeOf sign) ++ "'" ++ place)
    | run => some ("characters" ++ place ++ "-" ++ toString (start + run.length - 1))
  wrong.map fun wrong =>
    "'ascii' codec can't encode " ++ wrong ++ ": ordinal not in range(128)"

/-- The bytes that a text writes in base 64. -/
def readBinary (text : List Text.Sign) : Except Fault (List UInt8) :=
  match outsideAscii? text with
  | some wrong => .error (.binaryForm ("failed to convert base64 data into ascii: " ++ wrong))
  | none =>
    match Text.readBase64 (text.filterMap Text.Sign.char?) with
    | .ok bytes => .ok bytes
    | .error e => .error (.binaryForm ("failed to decode base64 data: " ++ e.message))

/-! ## Scalars -/

/-- The data that a node stands for in place of a scalar, if its tag asks for any. -/
def scalarData (nodes : Nodes) (n : Nat) : Except Fault Data := do
  let node := nodes.node n
  let use {α : Type} (read : Except Unusable α) (wrap : α → Data) : Except Fault Data :=
    (read.map wrap).mapError .unusable
  match wordOf? node.tag with
  | some "null" => return (fun _ => .null) (← nodes.textOf n)
  | some "bool" => use (readBool (← nodes.textOf n)) .bool
  | some "int" => use (readInt (← nodes.textOf n).toList) .int
  | some "float" => use (readFloat (← nodes.textOf n).toList) .float
  | some "str" => return .ofSigns (← nodes.signsOf n)
  | some "binary" => return .bytes (← readBinary (← nodes.signsOf n))
  | some "timestamp" =>
    let text ← nodes.textOf n
    if node.kind = .mapping then throw (.unusable .timeMapping)
    use (readDate text.toList) fun
      | .inl d => .day d
      | .inr t => .moment t
  | _ => throw (.unknownTag node.tag)

end LiteralMarkdown.Yaml
