import LiteralMarkdown.Pattern.Search

/-!
# Searching a text for a pattern

A scan goes over a text from left to right and cuts it into the matches of a pattern and the
characters between them. Matches do not overlap, and of the matches that begin at one place the
preferred one is taken. Where the preferred match is empty, the scan takes it and then looks for
one at the same place that is not. The texts of the pieces, put together, are the text.
-/

namespace LiteralMarkdown

/-- A stretch of a text that a pattern matched: the index of its first character, the text itself
and what the groups have kept. -/
structure Match where
  start : Nat
  text : List Char
  captured : List (Label × List Char)
deriving DecidableEq, Repr

/-- The text that a group has kept. -/
def Match.group? (m : Match) (label : Label) : Option (List Char) := m.captured.lookup label

/-- The match between two cursors. -/
def Cursor.matchTo (c finish : Cursor) : Match :=
  ⟨c.position, c.textTo finish, finish.captured.map fun kept => (kept.1, kept.2.text)⟩

/-- A piece of a text that has been searched. -/
inductive Piece where
  /-- A character outside all matches. -/
  | skipped (c : Char)
  /-- A match, which may be empty. -/
  | found (m : Match)
deriving DecidableEq, Repr

namespace Piece

/-- The text of a piece. -/
def text : Piece → List Char
  | .skipped c => [c]
  | .found m => m.text

/-- The match that a piece is, if it is one. -/
def match? : Piece → Option Match
  | .skipped _ => none
  | .found m => some m

end Piece

namespace Pattern

/-- The preferred match at a cursor. -/
def matchAt? (p : Pattern) (c : Cursor) : Option Match :=
  (p.search some c).map c.matchTo

/-- The preferred match at a cursor among those that are not empty. -/
def advanceAt? (p : Pattern) (c : Cursor) : Option Match :=
  (p.search (fun e => if c.position < e.position then some e else none) c).map c.matchTo

/-- The matches that a scan takes at a cursor: one that is not empty, an empty one, or an empty one
and then one that is not. -/
def takenAt (p : Pattern) (c : Cursor) : List Match :=
  match p.matchAt? c with
  | none => []
  | some m => if m.text.isEmpty then m :: (p.advanceAt? c).toList else [m]

/-- The pieces of the text ahead. The next `covered` characters belong to a match that has been
taken already. -/
def scanFrom (p : Pattern) (position : Nat) (previous : Option Char) (covered : Nat) :
    List Char → List Piece
  | [] => if covered = 0 then (p.takenAt ⟨position, previous, [], []⟩).map .found else []
  | x :: rest =>
    if covered = 0 then
      let taken := p.takenAt ⟨position, previous, x :: rest, []⟩
      match (taken.flatMap Match.text).length with
      | 0 => taken.map .found ++ .skipped x :: p.scanFrom (position + 1) (some x) 0 rest
      | k + 1 => taken.map .found ++ p.scanFrom (position + 1) (some x) k rest
    else p.scanFrom (position + 1) (some x) (covered - 1) rest

/-- The pieces of a text. -/
def scan (p : Pattern) (text : List Char) : List Piece := p.scanFrom 0 none 0 text

/-- The matches in a text, from left to right. -/
def matchesIn (p : Pattern) (text : List Char) : List Match :=
  (p.scan text).filterMap Piece.match?

/-- Whether the pattern matches anywhere in a text. -/
def occursIn (p : Pattern) (text : List Char) : Bool := !(p.matchesIn text).isEmpty

/-- The text with every match replaced. -/
def replaceAll (p : Pattern) (replace : Match → List Char) (text : List Char) : List Char :=
  (p.scan text).flatMap fun
    | .skipped c => [c]
    | .found m => replace m

/-- The text with the first match replaced. -/
def replaceFirst (p : Pattern) (replace : Match → List Char) (text : List Char) : List Char :=
  match p.matchesIn text with
  | [] => text
  | m :: _ => text.take m.start ++ replace m ++ text.drop (m.start + m.text.length)

end Pattern

end LiteralMarkdown
