import LiteralMarkdown.Pattern.CharSet

/-!
# Patterns

A pattern describes stretches of a text. It is a piece of data: what it matches is defined in
`Pattern.Ends`, how a text is searched for it in `Pattern.Scan`, and how it is written in
`Pattern.Notation`.
-/

namespace LiteralMarkdown

/-- The label under which a group keeps the text that it matched. Groups are counted from one in
the order of their opening; the count of a named group is not kept, its name is. -/
inductive Label where
  | number (n : Nat)
  | name (s : String)
deriving DecidableEq, Repr

/-- Whether a repetition tries to go on before it tries to stop, or the other way round. -/
inductive Greed where
  | greedy
  | lazy
deriving DecidableEq, Repr

/-- Patterns. -/
inductive Pattern where
  /-- Matches nothing at all, everywhere. -/
  | empty
  /-- Matches one character of a set. -/
  | chars (set : CharSet)
  /-- Matches one pattern and then another. -/
  | seq (first second : Pattern)
  /-- Matches the first pattern or, failing that, the second. -/
  | alt (first second : Pattern)
  /-- Matches a pattern and keeps the text that it matched. -/
  | group (label : Label) (body : Pattern)
  /-- Matches a pattern; it only sets it apart in writing. -/
  | scope (body : Pattern)
  /-- Matches the text that a group has kept. A group that has kept none cannot be repeated. -/
  | backref (label : Label)
  /-- Matches a pattern `least` times or more. -/
  | atLeast (least : Nat) (greed : Greed) (body : Pattern)
  /-- Matches a pattern once if that is possible, else nothing. -/
  | optional (body : Pattern)
  /-- Matches nothing, where a pattern does not match. -/
  | notAhead (body : Pattern)
  /-- Matches nothing, between a word character and something that is none. -/
  | wordBoundary
  /-- Matches nothing, before the first character of the text. -/
  | start
deriving DecidableEq, Repr

namespace Pattern

instance : Append Pattern := ⟨.seq⟩

/-- Matches one given character. -/
def char (c : Char) : Pattern := .chars (.only c)

/-- Matches the characters of a list, one after the other. -/
def literal : List Char → Pattern
  | [] => .empty
  | [c] => char c
  | c :: cs => char c ++ literal cs

/-- Matches the patterns of a list, one after the other. -/
def sequence : List Pattern → Pattern
  | [] => .empty
  | [p] => p
  | p :: ps => p ++ sequence ps

/-- Matches the first pattern of a list that can match. The empty list has the empty pattern. -/
def choice : List Pattern → Pattern
  | [] => .empty
  | [p] => p
  | p :: ps => .alt p (choice ps)

/-- Matches wherever any pattern of a list matches, each set apart from the others. -/
def combine (ps : List Pattern) : Pattern := choice (ps.map .scope)

/-- Matches a pattern any number of times, as often as possible. -/
def zeroOrMore (p : Pattern) : Pattern := .atLeast 0 .greedy p

/-- Matches a pattern once or more, as often as possible. -/
def oneOrMore (p : Pattern) : Pattern := .atLeast 1 .greedy p

end Pattern

end LiteralMarkdown
