import LiteralMarkdown.Pattern.Scan

/-!
# Segments

A pattern cuts a text into segments: its non-empty matches and the stretches between them. No
segment is empty, their texts put together are the text, and two unmatched segments never follow
each other. `replaceWhen` replaces either the matches of a text or what lies between them.
-/

namespace LiteralMarkdown

/-- A stretch of a text: the index of its first character, its text, and whether it is a match. -/
structure Segment where
  index : Nat
  text : List Char
  isMatch : Bool
deriving DecidableEq, Repr

namespace Segment

/-- The index, the length and whether the segment is a match. -/
def span (s : Segment) : Nat × Nat × Bool := (s.index, s.text.length, s.isMatch)

/-- An unmatched segment, if its text is not empty. -/
def unmatched (index : Nat) (text : List Char) : List Segment :=
  if text.isEmpty then [] else [⟨index, text, false⟩]

/-- The segments of a text from an index on, given its text from there and the matches ahead. -/
def ofMatches (index : Nat) (rest : List Char) : List Match → List Segment
  | [] => unmatched index rest
  | m :: ms =>
    if m.text.isEmpty then ofMatches index rest ms
    else
      let gap := m.start - index
      unmatched index (rest.take gap) ++
        ⟨m.start, m.text, true⟩ ::
          ofMatches (m.start + m.text.length) (rest.drop (gap + m.text.length)) ms

end Segment

/-- The segments into which a pattern cuts a text. -/
def splitSegments (p : Pattern) (text : List Char) : List Segment :=
  Segment.ofMatches 0 text (p.matchesIn text)

/-- The text with `replace` applied to its matches, or with `invert` to the stretches between them.
A text without any match counts as one stretch, even if it is empty. -/
def replaceWhen (p : Pattern) (replace : List Char → List Char) (invert : Bool)
    (text : List Char) : List Char :=
  if p.occursIn text then
    (splitSegments p text).flatMap fun s => if s.isMatch != invert then replace s.text else s.text
  else if invert then replace text
  else text

end LiteralMarkdown
