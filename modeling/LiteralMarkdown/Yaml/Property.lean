import LiteralMarkdown.Yaml.Fault
import LiteralMarkdown.Yaml.Spot
import LiteralMarkdown.Yaml.Token

/-!
# Names, tags and directives as they are written

The parts of a document that are not data: the names of anchors and aliases, the tags of nodes and
the directives before a document. Every reader takes the spot that it begins at and gives what it
has read and the spot after it.
-/

namespace LiteralMarkdown.Yaml

/-- The name of an anchor or an alias whose sign lies ahead. -/
def readName (fault : Fault) (s : Spot) : Except Fault (String × Spot) := do
  let (name, s) := s.next.takeWhile isNameChar
  if name.isEmpty then throw fault
  let mayFollow (c : Char) : Bool :=
    ['?', ':', ',', ']', '\x7d', '%', '@', '\x60'].contains c
  if !(Spot.endsWord s.head || s.head.any mayFollow) then throw fault
  return (String.ofList name, s)

/-! ## Tags -/

/-- The handle of a tag: an exclamation mark, or a name between two of them. -/
def readHandle (fault : Fault) (s : Spot) : Except Fault (String × Spot) := do
  if s.head ≠ some '!' then throw fault
  if s.peek 1 = some ' ' then return ("!", s.next)
  let (name, after) := s.next.takeWhile isNameChar
  if after.head ≠ some '!' then throw fault
  return (String.ofList ('!' :: name ++ ['!']), after.next)

/-- Whether the character may stand in the suffix of a tag as it is. -/
def isSuffixChar (c : Char) : Bool :=
  c.isAlphanum || "-;/?:@&=+$,_.!~*'()[]".toList.contains c

/-- The bytes that codes after percent signs write, and the spot after them. -/
def percentBytes (fault : Fault) : (fuel : Nat) → Spot → Except Fault (List UInt8 × Spot)
  | 0, s => .ok ([], s)
  | fuel + 1, s =>
    if s.head = some '%' then
      let digits := s.next.rest.take 2
      if digits.length = 2 ∧ digits.all isHexDigit then do
        let (more, s) ← percentBytes fault fuel (s.forward 3)
        return (UInt8.ofNat (hexNumber digits) :: more, s)
      else .error fault
    else .ok ([], s)

/-- The suffix of a tag, with codes after percent signs read as bytes of UTF-8. -/
def suffixFrom (fault : Fault) : (fuel : Nat) → Spot → Except Fault (List Char × Spot)
  | 0, s => .ok ([], s)
  | fuel + 1, s =>
    match s.head with
    | none => .ok ([], s)
    | some c =>
      if c = '%' then do
        let (bytes, s) ← percentBytes fault s.rest.length s
        match String.fromUTF8? ⟨bytes.toArray⟩ with
        | none => throw fault
        | some text =>
          let (more, s) ← suffixFrom fault fuel s
          return (text.toList ++ more, s)
      else if isSuffixChar c then do
        let (more, s) ← suffixFrom fault fuel s.next
        return (c :: more, s)
      else .ok ([], s)

/-- A suffix that is not empty. -/
def readSuffix (missing wrong : Fault) (s : Spot) : Except Fault (String × Spot) := do
  let (text, after) ← suffixFrom wrong s.rest.length s
  if text.isEmpty then throw missing
  return (String.ofList text, after)

/-- Whether another exclamation mark follows the one ahead before the next blank. -/
def hasHandle (s : Spot) : Bool :=
  (s.next.rest.takeWhile fun c => !Spot.endsPart (some c)).contains '!'

/-- A tag whose exclamation mark lies ahead: in full between angle brackets, the mark alone, or a
handle and a suffix. -/
def readTag (s : Spot) : Except Fault (Token × Spot) := do
  let (token, s) ←
    if s.peek 1 = some '<' then do
      let (suffix, s) ← readSuffix .tagForm .tagEnd (s.forward 2)
      if s.head ≠ some '>' then throw .tagForm
      pure (Token.tag none suffix, s.next)
    else if Spot.endsWord (s.peek 1) then pure (Token.tag none "!", s.next)
    else do
      let (handle, s) ← if hasHandle s then readHandle .tagEnd s else pure ("!", s.next)
      let (suffix, s) ← readSuffix .tagForm .tagEnd s
      pure (Token.tag (some handle) suffix, s)
  if !Spot.endsPart s.head then throw .tagEnd
  return (token, s)

/-! ## Directives -/

/-- A number in a directive. -/
def readVersionPart (s : Spot) : Except Fault (Nat × Spot) := do
  let (digits, s) := s.takeWhile Char.isDigit
  if digits.isEmpty then throw .directive
  return (digits.foldl (fun n c => n * 10 + (c.toNat - '0'.toNat)) 0, s)

/-- What follows the name of a directive. -/
def readDirectiveBody (name : List Char) (s : Spot) : Except Fault (Directive × Spot) := do
  if name = ['Y', 'A', 'M', 'L'] then
    let (major, s) ← readVersionPart (s.dropWhile (· == ' '))
    if s.head ≠ some '.' then throw .directive
    let (minor, s) ← readVersionPart s.next
    if !Spot.endsPart s.head then throw .directive
    return (.version major minor, s)
  else if name = ['T', 'A', 'G'] then
    let (handle, s) ← readHandle .directive (s.dropWhile (· == ' '))
    if s.head ≠ some ' ' then throw .directive
    let (stem, s) ← readSuffix .directivePrefix .directive (s.dropWhile (· == ' '))
    if !Spot.endsPart s.head then throw .directive
    return (.handle handle stem, s)
  else return (.other, s.dropWhile fun c => !isBreak c)

/-- A directive whose percent sign lies ahead, to the end of its line. -/
def readDirective (s : Spot) : Except Fault (Directive × Spot) := do
  let (name, s) := s.next.takeWhile isNameChar
  if name.isEmpty ∨ !Spot.endsPart s.head then throw .directive
  let (directive, s) ← readDirectiveBody name s
  let s := s.skipComment
  if !Spot.endsLine s.head then throw .directive
  return (directive, s.next)

end LiteralMarkdown.Yaml
