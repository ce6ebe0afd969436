import LiteralMarkdown.Text.Sign
import LiteralMarkdown.Yaml.Fault
import LiteralMarkdown.Yaml.Spot

/-!
# Scalars as they are written

A scalar is written plainly, in single or double quotes, or as an indented block. Each form has its
own way of folding lines: a single break becomes a blank, and of several breaks the first is
dropped. Every reader takes the spot that it begins at and gives the text and the spot after it. In
double quotes codes can write halves of surrogate pairs, so a text in quotes is made of signs.
-/

namespace LiteralMarkdown.Yaml

/-- The text that a break and the empty lines after it fold into. -/
def folded (lineBreak : Char) (more : List Char) : List Char :=
  (if foldedBreak lineBreak ≠ '\n' then [lineBreak] else if more.isEmpty then [' '] else []) ++ more

/-! ## Plain scalars -/

/-- The number of characters ahead that belong to one word of a plain scalar. A colon ends it only
before a blank, and in flow context also before an indicator. -/
def plainWord (inFlow : Bool) : List Char → Nat
  | [] => 0
  | c :: rest =>
    let isIndicator (x : Char) : Bool := [',', '[', ']', '\x7b', '\x7d'].contains x
    let ends := Spot.endsWord (some c) ||
      (c == ':' && (Spot.endsWord rest.head? || (inFlow && rest.head?.any isIndicator))) ||
      (inFlow && (c == '?' || isIndicator c))
    if ends then 0 else plainWord inFlow rest + 1

/-- The breaks of empty lines ahead and the spot after them and the blanks that begin the next line,
or the spot of a mark between documents. -/
def plainBreaks : (fuel : Nat) → Spot → List Char → List Char × Spot × Bool
  | 0, s, done => (done, s, false)
  | fuel + 1, s, done =>
    match s.head with
    | some ' ' => plainBreaks fuel s.next done
    | some c =>
      if isBreak c then
        let s := s.next
        let done := done ++ [foldedBreak c]
        if s.atSeparator then (done, s, true) else plainBreaks fuel s done
      else (done, s, false)
    | none => (done, s, false)

/-- What lies between two words of a plain scalar. -/
structure PlainGap where
  /-- The text that it folds into; none where the scalar has to end. -/
  text : List Char
  /-- The spot after it. -/
  spot : Spot
  /-- Whether it holds a break. -/
  broken : Bool

/-- The gap after a word of a plain scalar. -/
def plainGap (s : Spot) : PlainGap :=
  let (blanks, s) := s.takeWhile (· == ' ')
  match s.head with
  | some c =>
    if isBreak c then
      let s := s.next
      if s.atSeparator then ⟨[], s, true⟩
      else
        let (more, s, separated) := plainBreaks s.rest.length s []
        ⟨if separated then [] else folded c more, s, true⟩
    else ⟨blanks, s, false⟩
  | none => ⟨blanks, s, false⟩

/-- The rest of a plain scalar that lies deeper than `indent`, given the text of the gap before it,
and whether a break lies behind the last word. -/
def plainFrom (inFlow : Bool) (indent : Int) :
    (fuel : Nat) → Spot → (gap : List Char) → (broken : Bool) → List Char × Spot × Bool
  | 0, s, _, broken => ([], s, broken)
  | fuel + 1, s, gap, broken =>
    let length := if s.head = some '#' then 0 else plainWord inFlow s.rest
    if length = 0 then ([], s, broken)
    else
      let word := s.rest.take length
      let next := plainGap (s.forward length)
      let stops := next.text.isEmpty || next.spot.head == some '#' ||
        (!inFlow && decide ((next.spot.column : Int) < indent))
      if stops then (gap ++ word, next.spot, next.broken)
      else
        let (more, s, broken) := plainFrom inFlow indent fuel next.spot next.text next.broken
        (gap ++ word ++ more, s, broken)

/-- A plain scalar, and whether a break lies behind it. -/
def readPlain (inFlow : Bool) (indent : Int) (s : Spot) : List Char × Spot × Bool :=
  plainFrom inFlow indent (s.rest.length + 1) s [] false

/-! ## Quoted scalars -/

/-- What a letter after a backslash stands for in double quotes, other than a code. -/
def shortEscape? : Char → Option Char
  | '0' => some '\x00'
  | 'a' => some '\x07'
  | 'b' => some '\x08'
  | 't' => some '\t'
  | '\t' => some '\t'
  | 'n' => some '\n'
  | 'v' => some '\x0b'
  | 'f' => some '\x0c'
  | 'r' => some '\r'
  | 'e' => some '\x1b'
  | ' ' => some ' '
  | '\x22' => some '\x22'
  | '\\' => some '\\'
  | '/' => some '/'
  | 'N' => some '\x85'
  | '_' => some '\xa0'
  | 'L' => some '\u2028'
  | 'P' => some '\u2029'
  | _ => none

/-- The number of digits of the code after a letter. -/
def codeLength? : Char → Option Nat
  | 'x' => some 2
  | 'u' => some 4
  | 'U' => some 8
  | _ => none

/-- The breaks of empty lines in quotes, and the spot after them and the blanks that begin the next
line. No mark between documents may begin a line. -/
def quotedBreaks : (fuel : Nat) → Spot → Except Fault (List Char × Spot)
  | 0, s => .ok ([], s)
  | fuel + 1, s =>
    if s.atSeparator then .error .quotedScalar
    else
      let s := s.dropWhile fun c => c == ' ' || c == '\t'
      match s.head with
      | some c =>
        if isBreak c then do
          let (more, s) ← quotedBreaks fuel s.next
          return (foldedBreak c :: more, s)
        else .ok ([], s)
      | none => .ok ([], s)

/-- The sign of a code. -/
def signOfCode (code : Nat) : Except Fault Text.Sign :=
  if code ≤ 0x10FFFF then .ok (.ofCode code)
  else .error (.unusable (if code < 0x80000000 then .code else .longCode))

/-- An escape in double quotes at the spot after the backslash. -/
def readEscape (s : Spot) : Except Fault (List Text.Sign × Spot) :=
  match s.head with
  | none => .error .escape
  | some c =>
    match shortEscape? c, codeLength? c with
    | some x, _ => .ok ([.char x], s.next)
    | none, some length =>
      let digits := s.next.rest.take length
      if digits.length = length ∧ digits.all isHexDigit then do
        return ([← signOfCode (hexNumber digits)], s.next.forward length)
      else .error .escape
    | none, none =>
      if isBreak c then do
        let (text, s) ← quotedBreaks s.rest.length s.next
        return (text.map .char, s)
      else .error .escape

/-- The rest of a quoted scalar up to and with the closing quote. -/
def quotedFrom (double : Bool) : (fuel : Nat) → Spot → Except Fault (List Text.Sign × Spot)
  | 0, _ => .error .quotedScalar
  | fuel + 1, s =>
    let onward (text : List Text.Sign) (s : Spot) : Except Fault (List Text.Sign × Spot) := do
      let (more, s) ← quotedFrom double fuel s
      return (text ++ more, s)
    match s.head with
    | none => .error .quotedScalar
    | some c =>
      if c = '\x27' ∧ !double then
        if s.peek 1 = some '\x27' then onward [.char c] (s.forward 2) else .ok ([], s.next)
      else if c = '\x22' ∧ double then .ok ([], s.next)
      else if c = '\\' ∧ double then do
        let (text, s) ← readEscape s.next
        onward text s
      else if c = ' ' ∨ c = '\t' ∨ isBreak c then
        let (blanks, s) := s.takeWhile fun c => c == ' ' || c == '\t'
        match s.head with
        | none => .error .quotedScalar
        | some c =>
          if isBreak c then do
            let (more, s) ← quotedBreaks s.rest.length s.next
            onward ((folded c more).map .char) s
          else onward (blanks.map .char) s
      else onward [.char c] s.next

/-- A quoted scalar whose opening quote lies ahead. -/
def readQuoted (double : Bool) (s : Spot) : Except Fault (List Text.Sign × Spot) :=
  quotedFrom double (s.rest.length + 1) s.next

/-! ## Block scalars -/

/-- What becomes of the breaks at the end of a block scalar. -/
inductive Chomping where
  | clip
  | strip
  | keep
deriving DecidableEq, Repr

/-- The chomping that an indicator asks for. -/
def chompingOf? : Option Char → Option Chomping
  | some '+' => some .keep
  | some '-' => some .strip
  | _ => none

/-- The depth that an indicator asks for, if it is a digit other than zero. -/
def depthOf (c : Option Char) : Except Fault (Option Nat) :=
  match c with
  | some '0' => .error .blockScalar
  | some c => .ok (if c.isDigit then some (c.toNat - '0'.toNat) else none)
  | none => .ok none

/-- The header of a block scalar after its sign: chomping and depth in any order, then nothing but a
comment. -/
def readHeader (s : Spot) : Except Fault (Chomping × Option Nat × Spot) := do
  let (chomping, depth, s) ← match chompingOf? s.head with
    | some chomping => do
      let depth ← depthOf s.next.head
      pure (chomping, depth, if depth.isSome then s.next.next else s.next)
    | none => do
      match ← depthOf s.head with
      | none => pure (.clip, none, s)
      | some depth =>
        match chompingOf? s.next.head with
        | some chomping => pure (chomping, some depth, s.next.next)
        | none => pure (.clip, some depth, s.next)
  if !Spot.endsPart s.head then throw .blockScalar
  let s := s.skipComment
  if !Spot.endsLine s.head then throw .blockScalar
  return (chomping, depth, s.next)

/-- The breaks of the lines ahead that are empty or blank, the greatest column in them, and the spot
after them. -/
def leadingLines : (fuel : Nat) → Spot → (deepest : Nat) → List Char × Nat × Spot
  | 0, s, deepest => ([], deepest, s)
  | fuel + 1, s, deepest =>
    match s.head with
    | some ' ' => leadingLines fuel s.next (max deepest s.next.column)
    | some c =>
      if isBreak c then
        let (more, deepest, s) := leadingLines fuel s.next deepest
        (foldedBreak c :: more, deepest, s)
      else ([], deepest, s)
    | none => ([], deepest, s)

/-- The spot after the blanks ahead, at most up to a column. -/
def skipIndent (indent : Nat) (s : Spot) : Spot :=
  s.forward (min (indent - s.column) (s.rest.takeWhile (· == ' ')).length)

/-- The breaks of the empty lines ahead, and the spot after them and the indentation of the next
line. -/
def emptyLines (indent : Nat) : (fuel : Nat) → Spot → List Char × Spot
  | 0, s => ([], s)
  | fuel + 1, s =>
    let s := skipIndent indent s
    match s.head with
    | some c =>
      if isBreak c then
        let (more, s) := emptyLines indent fuel s.next
        (foldedBreak c :: more, s)
      else ([], s)
    | none => ([], s)

/-- The lines of a block scalar at their indentation, given the breaks before the first of them: the
text up to the last line, the break of that line and the breaks after it, and the spot after all. -/
def blockLines (isFolded : Bool) (indent : Nat) :
    (fuel : Nat) → Spot → (breaks : List Char) → List Char × List Char × List Char × Spot
  | 0, s, breaks => ([], [], breaks, s)
  | fuel + 1, s, breaks =>
    if s.column = indent ∧ s.head.isSome then
      let flush := !(s.head == some ' ' || s.head == some '\t')
      let (line, s) := s.takeWhile fun c => !isBreak c
      let lineBreak := (s.head.map foldedBreak).toList
      let (after, s) := emptyLines indent s.rest.length s.next
      if s.column = indent ∧ s.head.isSome then
        let folds := isFolded && lineBreak == ['\n'] && flush &&
          !(s.head == some ' ' || s.head == some '\t')
        let joint := if folds then (if after.isEmpty then [' '] else []) else lineBreak
        let (text, lineBreak, after, s) := blockLines isFolded indent fuel s after
        (breaks ++ line ++ joint ++ text, lineBreak, after, s)
      else (breaks ++ line, lineBreak, after, s)
    else ([], [], breaks, s)

/-- A block scalar whose sign lies ahead, in a collection at the given column. -/
def readBlock (isFolded : Bool) (parent : Int) (s : Spot) : Except Fault (List Char × Spot) := do
  let (chomping, depth, s) ← readHeader s.next
  let least := (max (parent + 1) 1).toNat
  let (breaks, indent, s) := match depth with
    | none =>
      let (breaks, deepest, s) := leadingLines s.rest.length s 0
      (breaks, max least deepest, s)
    | some depth =>
      let indent := least + depth - 1
      let (breaks, s) := emptyLines indent (s.rest.length + 1) s
      (breaks, indent, s)
  let (text, lineBreak, after, s) := blockLines isFolded indent (s.rest.length + 1) s breaks
  let ending := match chomping with
    | .clip => lineBreak
    | .strip => []
    | .keep => lineBreak ++ after
  return (text ++ ending, s)

end LiteralMarkdown.Yaml
