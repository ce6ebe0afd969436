import LiteralMarkdown.Pattern.Basic

/-!
# What a pattern matches

A cursor is a place in a text together with what groups have kept on the way there. `Pattern.ends`
lists the cursors at which a match that begins at a given cursor can end, the preferred one first:
a choice prefers its first branch, a greedy repetition prefers to go on, a lazy one to stop. The
match itself is the first of them; the others are where it falls back to when something that has to
follow does not match.
-/

namespace LiteralMarkdown

/-- What a group has kept: the text that lay ahead where the group began, and how much of it the
group matched. -/
structure Capture where
  ahead : List Char
  length : Nat
deriving DecidableEq, Repr

/-- The text that a group has kept. -/
def Capture.text (kept : Capture) : List Char := kept.ahead.take kept.length

/-- A place in a text: how many characters lie behind it, the last of these, and those that lie
ahead; and what groups have kept so far, the latest first. -/
structure Cursor where
  position : Nat
  previous : Option Char
  rest : List Char
  captured : List (Label × Capture)
deriving DecidableEq, Repr

namespace Cursor

/-- The place before the first character of a text. -/
def atStart (text : List Char) : Cursor := ⟨0, none, text, []⟩

/-- The cursor after a character, given what lies ahead of it then. -/
def pass (c : Cursor) (x : Char) (rest : List Char) : Cursor :=
  { c with position := c.position + 1, previous := some x, rest }

/-- The cursor after the next character, if the set holds that character. -/
def step? (allowed : CharSet) (c : Cursor) : Option Cursor :=
  match c.rest with
  | [] => none
  | x :: rest => if allowed.has x then some (c.pass x rest) else none

/-- The cursor after a given text, if that text lies ahead. -/
def over? : List Char → Cursor → Option Cursor
  | [], c => some c
  | x :: xs, c =>
    match c.rest with
    | [] => none
    | y :: rest => if x = y then over? xs (c.pass y rest) else none

/-- The text between a cursor and a later one. -/
def textTo (c finish : Cursor) : List Char := c.rest.take (finish.position - c.position)

/-- The cursor after the text that a group has kept, if there is one and it lies ahead. -/
def overCapture? (c : Cursor) (label : Label) : Option Cursor :=
  match c.captured.lookup label with
  | none => none
  | some kept => over? kept.text c

/-- The cursor `finish`, where a group that began at `c` has kept the text between the two. -/
def keep (c : Cursor) (label : Label) (finish : Cursor) : Cursor :=
  { finish with captured := (label, ⟨c.rest, finish.position - c.position⟩) :: finish.captured }

/-- Whether a word character lies on one side of the cursor only. -/
def atWordBoundary (c : Cursor) : Bool :=
  c.previous.any Text.isWord != c.rest.head?.any Text.isWord

/-! ## All ends of a match -/

/-- The ends of something repeated exactly `n` times. -/
def timesEnds (ends : Cursor → List Cursor) : Nat → Cursor → List Cursor
  | 0, c => [c]
  | n + 1, c => (ends c).flatMap (timesEnds ends n)

/-- The ends of something repeated any number of times. A turn that does not get any further ends
the repetition. At most one turn is taken for each character of `fuel`; since each turn passes a
character, those ahead are enough. -/
def repeatEnds (ends : Cursor → List Cursor) (greed : Greed) :
    (fuel : List Char) → Cursor → List Cursor
  | [], c => [c]
  | _ :: fuel, c =>
    let further := ((ends c).filter fun e => c.position < e.position).flatMap
      (repeatEnds ends greed fuel)
    match greed with
    | .greedy => further ++ [c]
    | .lazy => c :: further

end Cursor

namespace Pattern

/-- The cursors at which a match from a cursor can end, the preferred one first. -/
def ends : Pattern → Cursor → List Cursor
  | .empty, c => [c]
  | .chars allowed, c => (c.step? allowed).toList
  | .seq first second, c => (first.ends c).flatMap second.ends
  | .alt first second, c => first.ends c ++ second.ends c
  | .group label body, c => (body.ends c).map (c.keep label)
  | .scope body, c => body.ends c
  | .backref label, c => (c.overCapture? label).toList
  | .atLeast least greed body, c =>
    (Cursor.timesEnds body.ends least c).flatMap fun e =>
      Cursor.repeatEnds body.ends greed e.rest e
  | .optional body, c => body.ends c ++ [c]
  | .notAhead body, c => if (body.ends c).isEmpty then [c] else []
  | .wordBoundary, c => if c.atWordBoundary then [c] else []
  | .start, c => if c.position = 0 then [c] else []

end Pattern

end LiteralMarkdown
