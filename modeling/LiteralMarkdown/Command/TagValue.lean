import LiteralMarkdown.Text.Literal
import LiteralMarkdown.Text.Word

/-!
# Values of tags

A tag that begins with `@` can have a value: a name, a name with arguments in parentheses, or plain
data. Data are numbers, texts, bytes, three constants, and groups, sets and mappings of data; sets
and the keys of mappings hold no sets and no mappings. What the data are is of no interest here,
only whether they can be read.
-/

namespace LiteralMarkdown.Command

open Text.Literal

/-- What has been read, as far as it matters for what can stand around it. -/
inductive TagValue where
  /-- A number without a sign. -/
  | number
  /-- An imaginary number without a sign. -/
  | imaginary
  /-- A number with a sign. -/
  | signed
  /-- Something else that a set can hold. -/
  | member
  /-- Something that no set can hold. -/
  | collection
deriving DecidableEq, Repr

namespace TagValue

/-- Whether a set can hold the value. -/
def isMember (value : TagValue) : Bool := value != .collection

/-- A value behind a sign. -/
def withSign? : TagValue → Option TagValue
  | .number => some .signed
  | .imaginary => some .member
  | _ => none

/-- The sum or the difference of two values: of a number and an imaginary one. -/
def plus? (left right : TagValue) : Option TagValue :=
  if (left = .number ∨ left = .signed) ∧ right = .imaginary then some .member else none

/-- Several values in parentheses. -/
def group (values : List TagValue) : TagValue :=
  if values.all isMember then .member else .collection

/-- What is left behind blanks and comments. Lines can end here only inside brackets. -/
def skip (inside inComment : Bool) : List Char → List Char
  | [] => []
  | [c] => if isLineEnd c && !inside || !(inComment || " \t\x0c#\n\r".contains c) then [c] else []
  | c :: d :: rest =>
    if c = '\\' ∧ d = '\n' ∧ !inComment then skip inside false rest
    else if isLineEnd c then if inside then skip inside false (d :: rest) else c :: d :: rest
    else if inComment || " \t\x0c".contains c then skip inside inComment (d :: rest)
    else if c = '#' then skip inside true (d :: rest)
    else c :: d :: rest

/-- What is left behind quoted texts that follow one another. They all stand for bytes, or none of
them does. -/
def texts? (inside : Bool) : (fuel : Nat) → (bytes : Bool) → List Char → Option (List Char)
  | 0, _, _ => none
  | fuel + 1, bytes, s =>
    let next := skip inside false s
    let afterLetters := (next.dropWhile isInName).head?
    if afterLetters = some '\x27' ∨ afterLetters = some '\x22' then do
      let (sameKind, rest) ← text? next
      if sameKind = bytes then texts? inside fuel bytes rest else none
    else some s

/-- The value with a name: a constant, or the empty set. -/
def named? (inside : Bool) (s : List Char) : Option (TagValue × List Char) :=
  let name := s.takeWhile isInName
  let rest := s.drop name.length
  if ["True", "False", "None"].contains (String.ofList name) then some (.member, rest)
  else if String.ofList name = "set" then
    match skip inside false rest with
    | '(' :: rest =>
      match skip true false rest with
      | ')' :: rest => some (.collection, rest)
      | _ => none
    | _ => none
  else none

/-- The value that is no more than a number, a text or a name. -/
def simple? (inside : Bool) (s : List Char) : Option (TagValue × List Char) :=
  if beginsNumber s then
    (number? s).map fun (hasUnit, rest) => (if hasUnit then .imaginary else .number, rest)
  else if "...".toList.isPrefixOf s then some (.member, s.drop 3)
  else match text? s with
    | some (bytes, rest) =>
      (texts? inside (s.length + 1) bytes rest).map fun rest => (.member, rest)
    | none => named? inside s

mutual

/-- A value, or the sum or the difference of two values. -/
def value? (inside : Bool) : (fuel : Nat) → List Char → Option (TagValue × List Char)
  | 0, _ => none
  | fuel + 1, s => do
    let (left, rest) ← operand? inside fuel s
    match skip inside false rest with
    | sign :: next =>
      if sign = '+' ∨ sign = '-' then
        let (right, rest) ← operand? inside fuel next
        return (← left.plus? right, rest)
      else return (left, rest)
    | [] => return (left, rest)

/-- A value with any signs in front of it. -/
def operand? (inside : Bool) : (fuel : Nat) → List Char → Option (TagValue × List Char)
  | 0, _ => none
  | fuel + 1, s =>
    match skip inside false s with
    | '(' :: rest => do
      let (values, hasComma, rest) ← group? fuel rest
      match values, hasComma with
      | [value], false => return (value, rest)
      | values, _ => return (group values, rest)
    | '{' :: rest => (entries? fuel none rest).map fun rest => (.collection, rest)
    | c :: rest =>
      if c = '+' ∨ c = '-' then do
        let (value, rest) ← operand? inside fuel rest
        return (← value.withSign?, rest)
      else simple? inside (c :: rest)
    | [] => none

/-- The values up to a closing parenthesis, and whether there is a comma behind the last one. -/
def group? : (fuel : Nat) → List Char → Option (List TagValue × Bool × List Char)
  | 0, _ => none
  | fuel + 1, s =>
    match skip true false s with
    | ')' :: rest => some ([], false, rest)
    | s => do
      let (value, rest) ← value? true fuel s
      match skip true false rest with
      | ')' :: rest => return ([value], false, rest)
      | ',' :: rest =>
        let (values, hasComma, rest) ← group? fuel rest
        return (value :: values, values.isEmpty || hasComma, rest)
      | _ => none

/-- What is left behind the entries up to a closing brace. All of them are members of a set, or all
are entries of a mapping. -/
def entries? : (fuel : Nat) → (isMap : Option Bool) → List Char → Option (List Char)
  | 0, _, _ => none
  | fuel + 1, isMap, s =>
    match skip true false s with
    | '}' :: rest => some rest
    | s => do
      let (key, rest) ← value? true fuel s
      let (hasValue, rest) ← match skip true false rest with
        | ':' :: rest => (value? true fuel rest).map fun (_, rest) => (true, rest)
        | rest => some (false, rest)
      if !key.isMember || isMap == some !hasValue then none
      match skip true false rest with
      | '}' :: rest => return rest
      | ',' :: rest => entries? fuel (some hasValue) rest
      | _ => none

end

/-- Whether a text is one value, or several ones with commas between them. -/
def isData : (fuel : Nat) → List Char → Bool
  | 0, _ => false
  | fuel + 1, s =>
    match value? false (3 * s.length + 3) s with
    | none => false
    | some (_, rest) =>
      match skip false false rest with
      | ',' :: rest => (skip true false rest).isEmpty || isData fuel rest
      | rest => (skip true false rest).isEmpty

/-- Whether the value of a tag can be read. -/
def isReadable (s : List Char) : Bool :=
  let s := Text.trim Text.isBlank s
  let arguments := s.dropWhile fun c => Text.isWord c || c == '.'
  let isCall := arguments.head? == some '(' && arguments.getLast? == some ')' &&
    !arguments.contains '\n'
  let data := if isCall then arguments else s
  arguments.isEmpty || !data.contains '\x00' && isData (data.length + 1) data

end TagValue

end LiteralMarkdown.Command
