import LiteralMarkdown.Pattern.Scan

/-!
# Escape rules

An escape rule names a pattern for one kind of inline entity: delimiters that stand close enough
together for a reader of Markdown to take them as syntax. The first group of the pattern is the
opening delimiter and, if the rule is `surrounding`, the second one is the closing delimiter. The
patterns follow what lenient readers accept; they are no grammar of Markdown.
-/

namespace LiteralMarkdown

/-- Which delimiters a rule escapes: the one before the content, or both around it. -/
inductive Arity where
  | leading
  | surrounding
deriving DecidableEq, Repr

/-- The word for an arity. -/
def Arity.word : Arity → String
  | .leading => "leading"
  | .surrounding => "surrounding"

/-- A named pattern for an inline entity, and which of its groups are delimiters to escape. -/
structure EscapeRule where
  name : String
  pattern : Pattern
  arity : Arity
deriving DecidableEq, Repr

namespace EscapeRule

open Pattern

/-- The label of the opening delimiter. -/
def opening : Label := .number 1

/-- The label of the closing delimiter. -/
def closing : Label := .number 2

/-- A run of at least `least` delimiters, content without any, and the same run again. -/
def paired (delimiter : Char) (least : Nat) (content : Pattern → Pattern) : Pattern :=
  sequence [
    .group opening (.atLeast least .greedy (.char delimiter)),
    content (.chars (.noneOf [delimiter])),
    .group closing (.backref opening)]

/-- Asterisks on both sides of something. -/
def asteriskEmphasis : EscapeRule where
  name := "asterisk_emphasis"
  pattern := paired '*' 1 oneOrMore
  arity := .surrounding

/-- Single underscores on both sides of something, the last one at the end of a word. Nothing is
asked of what precedes the first one. -/
def underscoreEmphasis : EscapeRule where
  name := "underscore_emphasis"
  pattern := sequence [
    .group opening (.char '_'),
    oneOrMore (.chars (.noneOf ['_'])),
    .group closing (.char '_'),
    .wordBoundary]
  arity := .surrounding

/-- Two or more underscores on both sides of something, at any place in a word. -/
def underscoreStrong : EscapeRule where
  name := "underscore_strong"
  pattern := paired '_' 2 oneOrMore
  arity := .surrounding

/-- Tildes on both sides of something. -/
def tildeStrikethrough : EscapeRule where
  name := "tilde_strikethrough"
  pattern := paired '~' 1 oneOrMore
  arity := .surrounding

/-- Backticks on both sides of something or of nothing. -/
def backtickCode : EscapeRule where
  name := "backtick_code"
  pattern := paired '\x60' 1 zeroOrMore
  arity := .surrounding

/-- An opening bracket, unless a caret makes it a footnote reference, and everything up to the next
closing bracket. It is enough to escape the opening bracket of a link, an image or a reference. -/
def bracketLink : EscapeRule where
  name := "bracket_link"
  pattern := sequence [
    .group opening (.char '['),
    .notAhead (.char '^'),
    zeroOrMore (.chars (.noneOf [']'])),
    .char ']']
  arity := .leading

/-- The rules, in the order in which they are applied. -/
def all : List EscapeRule :=
  [asteriskEmphasis, underscoreEmphasis, underscoreStrong, tildeStrikethrough, backtickCode,
    bracketLink]

end EscapeRule

end LiteralMarkdown
