import LiteralMarkdown.Yaml.Property
import LiteralMarkdown.Yaml.Scalar

/-!
# From text to tokens

The tokens of a text are found one after the other, while the columns of open block collections and
the places where a key may have begun are kept. A key is known as such only when the colon after it
is found, so the tokens that announce it are put in where it began once all tokens are known.

A fault is held back until a reader of tokens gets to it. It does not get past a token that may
still turn out to begin a key before the text after that token has been looked at.
-/

namespace LiteralMarkdown.Yaml

/-- A place where a key may have begun: the number of its first token, whether it has to be a key
because nothing else can begin there, and where it lies in the text. -/
structure PossibleKey where
  token : Nat
  required : Bool
  index : Nat
  line : Nat
  column : Nat
deriving DecidableEq, Repr

/-- How far a text has been turned into tokens. -/
structure Layout where
  /-- The place in the text. -/
  spot : Spot
  /-- How many flow collections are open. -/
  flowLevel : Nat
  /-- The column of the innermost open block collection, or -1. -/
  indent : Int
  /-- The columns of the block collections around it. -/
  outer : List Int
  /-- Whether a key may begin here. -/
  keyAllowed : Bool
  /-- Where keys may have begun, by the number of flow collections that are open there. -/
  possible : List (Nat × PossibleKey)
  /-- The tokens so far, the last one first, without those that announce keys. -/
  tokens : List Token
  /-- The number of these tokens. -/
  count : Nat
  /-- The tokens that announce keys, each with the number of the token that it goes before; the
  latest first. -/
  announced : List (Nat × Token)
  /-- Whether the end of the text has been reached. -/
  done : Bool

namespace Layout

/-- Before the first token of a text. -/
def ofText (text : List Char) : Layout where
  spot := .atStart text
  flowLevel := 0
  indent := -1
  outer := []
  keyAllowed := true
  possible := []
  tokens := []
  count := 0
  announced := []
  done := false

/-- One more token. -/
def emit (t : Token) (l : Layout) : Layout :=
  { l with tokens := t :: l.tokens, count := l.count + 1 }

/-- At another place. -/
def moveTo (s : Spot) (l : Layout) : Layout := { l with spot := s }

/-- After the next `n` characters. -/
def advance (n : Nat) (l : Layout) : Layout := l.moveTo (l.spot.forward n)

/-- With keys allowed or not. -/
def allowKey (allowed : Bool) (l : Layout) : Layout := { l with keyAllowed := allowed }

/-! ## Possible keys -/

/-- Whether the key can no longer be one: it has to lie on one line and within 1024 characters. -/
def isStale (l : Layout) (key : PossibleKey) : Bool :=
  key.line != l.spot.line || l.spot.index - key.index > 1024

/-- Without the places where no key can have begun after all. -/
def dropStale (l : Layout) : Except Fault Layout :=
  if l.possible.any fun entry => l.isStale entry.2 && entry.2.required then .error .simpleKey
  else .ok { l with possible := l.possible.filter fun entry => !l.isStale entry.2 }

/-- Without the possible key among the open flow collections. -/
def dropKey (l : Layout) : Except Fault Layout :=
  match l.possible.lookup l.flowLevel with
  | none => .ok l
  | some key =>
    if key.required then .error .simpleKey
    else .ok { l with possible := l.possible.filter fun entry => entry.1 != l.flowLevel }

/-- With a possible key that begins here, if keys are allowed. In a block collection what begins at
its column has to be a key. -/
def saveKey (l : Layout) : Except Fault Layout :=
  if l.keyAllowed then do
    let kept ← l.dropKey
    let key : PossibleKey :=
      { token := l.count
        required := l.flowLevel == 0 && l.indent == (l.spot.column : Int)
        index := l.spot.index
        line := l.spot.line
        column := l.spot.column }
    return { kept with possible := (l.flowLevel, key) :: kept.possible }
  else .ok l

/-- The number of the first token that may still turn out to begin a key. -/
def firstPossible? (l : Layout) : Option Nat := (l.possible.map fun entry => entry.2.token).min?

/-! ## Columns -/

/-- With all block collections closed that lie deeper than a column, given those around the
innermost one. -/
def closeTo (column : Int) : (outer : List Int) → Layout → Layout
  | [], l => l
  | around :: outer, l =>
    if column < l.indent then
      closeTo column outer ({ l with indent := around, outer }.emit .blockEnd)
    else l

/-- With all block collections closed that lie deeper than a column. In flow context columns do not
matter. -/
def unwind (column : Int) (l : Layout) : Layout :=
  if l.flowLevel = 0 then closeTo column l.outer l else l

/-- Whether a block collection begins at a column, and the columns with it. -/
def indentTo (column : Int) (l : Layout) : Bool × Layout :=
  if l.indent < column then (true, { l with indent := column, outer := l.indent :: l.outer })
  else (false, l)

/-- With a block collection opened here by a token, if one begins here. -/
def openBlock (t : Token) (l : Layout) : Layout :=
  let (opened, l) := l.indentTo l.spot.column
  if opened then l.emit t else l

/-! ## One token after another -/

/-- After the blanks, comments and breaks ahead. After a break a key may begin, except in flow
context. -/
def skipGap : (fuel : Nat) → Layout → Layout
  | 0, l => l
  | fuel + 1, l =>
    let s := l.spot.skipComment
    match s.head with
    | some c =>
      if isBreak c then
        skipGap fuel ((l.moveTo s.next).allowKey (l.keyAllowed || l.flowLevel == 0))
      else l.moveTo s
    | none => l.moveTo s

/-- At the end of the text. -/
def endStream (l : Layout) : Except Fault Layout := do
  let l ← (l.unwind (-1)).dropKey
  return { (l.emit .streamEnd).allowKey false with possible := [], done := true }

/-- After a directive. -/
def directive (l : Layout) : Except Fault Layout := do
  let l ← (l.unwind (-1)).dropKey
  let (d, s) ← readDirective l.spot
  return ((l.allowKey false).moveTo s).emit (.directive d)

/-- After a mark between documents. -/
def separator (t : Token) (l : Layout) : Except Fault Layout := do
  let l ← (l.unwind (-1)).dropKey
  return ((l.allowKey false).advance 3).emit t

/-- Inside a flow collection that begins here. -/
def openFlow (t : Token) (l : Layout) : Except Fault Layout := do
  let l ← l.saveKey
  return (({ l with flowLevel := l.flowLevel + 1 }.allowKey true).advance 1).emit t

/-- After a flow collection. -/
def closeFlow (t : Token) (l : Layout) : Except Fault Layout := do
  let l ← l.dropKey
  return (({ l with flowLevel := l.flowLevel - 1 }.allowKey false).advance 1).emit t

/-- After a comma in a flow collection. -/
def flowEntry (l : Layout) : Except Fault Layout := do
  let l ← (l.allowKey true).dropKey
  return (l.advance 1).emit .flowEntry

/-- After the dash of an item. -/
def blockEntry (l : Layout) : Except Fault Layout := do
  if l.flowLevel = 0 ∧ !l.keyAllowed then throw .sequenceNotAllowed
  let l := if l.flowLevel = 0 then l.openBlock .blockSequenceStart else l
  let l ← (l.allowKey true).dropKey
  return (l.advance 1).emit .blockEntry

/-- After the question mark of a key. -/
def explicitKey (l : Layout) : Except Fault Layout := do
  if l.flowLevel = 0 ∧ !l.keyAllowed then throw .keyNotAllowed
  let l := if l.flowLevel = 0 then l.openBlock .blockMappingStart else l
  let l ← (l.allowKey (l.flowLevel == 0)).dropKey
  return (l.advance 1).emit .key

/-- After the colon of a value. If a key may have begun before it, this is where it did. -/
def value (l : Layout) : Except Fault Layout := do
  match l.possible.lookup l.flowLevel with
  | some key =>
    let l := { l with possible := l.possible.filter fun entry => entry.1 != l.flowLevel }
    let (opened, l) := if l.flowLevel = 0 then l.indentTo key.column else (false, l)
    let announced := (key.token, .key) ::
      (if opened then (key.token, Token.blockMappingStart) :: l.announced else l.announced)
    return (({ l with announced }.allowKey false).advance 1).emit .value
  | none =>
    if l.flowLevel = 0 ∧ !l.keyAllowed then throw .valueNotAllowed
    let l := if l.flowLevel = 0 then l.openBlock .blockMappingStart else l
    let l ← (l.allowKey (l.flowLevel == 0)).dropKey
    return (l.advance 1).emit .value

/-- After something with which a key may begin. -/
def property (read : Spot → Except Fault (Token × Spot)) (l : Layout) : Except Fault Layout := do
  let l ← l.saveKey
  let (t, s) ← read l.spot
  return ((l.allowKey false).moveTo s).emit t

/-- After a scalar in quotes. -/
def quotedScalar (double : Bool) (l : Layout) : Except Fault Layout :=
  l.property fun s => do
    let (text, after) ← readQuoted double s
    return (.scalar text .setApart, after)

/-- After a block scalar. A key may follow it. -/
def blockScalar (isFolded : Bool) (l : Layout) : Except Fault Layout := do
  let l ← (l.allowKey true).dropKey
  let (text, s) ← readBlock isFolded l.indent l.spot
  return (l.moveTo s).emit (.scalar (text.map .char) .setApart)

/-- After a plain scalar. A key may follow it on another line. -/
def plainScalar (l : Layout) : Except Fault Layout := do
  let l ← l.saveKey
  let (text, s, broken) := readPlain (l.flowLevel != 0) (l.indent + 1) l.spot
  return ((l.allowKey broken).moveTo s).emit (.scalar (text.map .char) .plain)

/-- Whether a plain scalar begins with the character ahead. -/
def startsPlain (l : Layout) : Bool :=
  match l.spot.head with
  | none => false
  | some c =>
    let isIndicator := "-?:,[]\x7b\x7d#&*!|>'\x22%@`".toList.contains c
    (!Spot.endsWord (some c) && !isIndicator) ||
      (!Spot.endsWord (l.spot.peek 1) && (c == '-' || (l.flowLevel == 0 && (c == '?' || c == ':'))))

/-- After the next token, with the tokens for the block collections that end before it. -/
def fetch (l : Layout) : Except Fault Layout := do
  let start := if l.spot.index = 0 ∧ l.spot.head = some '\uFEFF' then l.advance 1 else l
  let l ← (skipGap (start.spot.rest.length + 1) start).dropStale
  let l := l.unwind l.spot.column
  let s := l.spot
  let inFlow := l.flowLevel != 0
  let marked := inFlow || Spot.endsWord (s.peek 1)
  match s.head with
  | none => l.endStream
  | some c =>
    if c = '%' ∧ s.column = 0 then l.directive
    else if c = '-' ∧ s.column = 0 ∧ s.atSeparator then l.separator .documentStart
    else if c = '.' ∧ s.column = 0 ∧ s.atSeparator then l.separator .documentEnd
    else if c = '[' then l.openFlow .flowSequenceStart
    else if c = '\x7b' then l.openFlow .flowMappingStart
    else if c = ']' then l.closeFlow .flowSequenceEnd
    else if c = '\x7d' then l.closeFlow .flowMappingEnd
    else if c = ',' then l.flowEntry
    else if c = '-' ∧ Spot.endsWord (s.peek 1) then l.blockEntry
    else if c = '?' ∧ marked then l.explicitKey
    else if c = ':' ∧ marked then l.value
    else if c = '*' then
      l.property fun s => return (← readName .aliasName s).map .alias id
    else if c = '&' then
      l.property fun s => return (← readName .anchorName s).map .anchor id
    else if c = '!' then l.property readTag
    else if c = '|' ∧ !inFlow then l.blockScalar false
    else if c = '>' ∧ !inFlow then l.blockScalar true
    else if c = '\x27' then l.quotedScalar false
    else if c = '\x22' then l.quotedScalar true
    else if l.startsPlain then l.plainScalar
    else .error .noToken

/-! ## All tokens -/

/-- The tokens, the first `count` in number, before others, each with those before it that announce
a key there. -/
def spliceOnto : (count : Nat) → List Token → List (Nat × Token) → List Token → List Token
  | 0, _, _, done => done
  | _ + 1, [], _, done => done
  | count + 1, t :: tokens, announced, done =>
    let here := (announced.filter fun entry => entry.1 == count).map (·.2)
    spliceOnto count tokens announced (here.reverse ++ t :: done)

/-- The tokens before the one with the given number. -/
def tokensBefore (limit : Nat) (l : Layout) : List Token :=
  spliceOnto limit (l.tokens.drop (l.count - limit)) l.announced []

/-- The tokens of a text, and the fault that ends them, if there is one. While a reader waits at the
token `waiting`, each round finds more tokens. -/
def run : (fuel : Nat) → (waiting : Nat) → Layout → List Token × Option Fault
  | 0, _, l => (l.tokensBefore l.count, none)
  | fuel + 1, waiting, l =>
    match l.fetch with
    | .error fault => (l.tokensBefore waiting, some fault)
    | .ok l =>
      if l.done then (l.tokensBefore l.count, none)
      else match l.dropStale with
        | .error fault => (l.tokensBefore waiting, some fault)
        | .ok l => run fuel (l.firstPossible?.getD l.count) l

end Layout

/-- The tokens of a text, and the fault that ends them, if there is one. Every round passes a
character or comes to the end. -/
def tokenize (text : List Char) : List Token × Option Fault :=
  Layout.run (text.length + 2) 0 (.ofText text)

end LiteralMarkdown.Yaml
