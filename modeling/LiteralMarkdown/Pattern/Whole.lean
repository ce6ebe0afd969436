import LiteralMarkdown.Pattern.Scan

/-!
# Matching a text as a whole

Whether a pattern matches a text from its first to its last character, and what its groups keep
then.
-/

namespace LiteralMarkdown.Pattern

/-- The preferred match of a pattern with all of a text, if there is one. -/
def wholeMatch? (p : Pattern) (text : List Char) : Option Match :=
  (p.search (fun e => if e.rest.isEmpty then some e else none) (.atStart text)).map
    (Cursor.atStart text).matchTo

/-- Whether the pattern matches all of a text. -/
def matchesWhole (p : Pattern) (text : List Char) : Bool := (p.wholeMatch? text).isSome

end LiteralMarkdown.Pattern
