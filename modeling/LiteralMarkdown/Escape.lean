import LiteralMarkdown.Protection
import LiteralMarkdown.Rule
import LiteralMarkdown.Segment

/-!
# Escaping

Text that was typed as it is meant would turn into syntax when it is read as Markdown. These
functions put a backslash before the characters that would do so. `escapeCommon` treats the inline
entities outside protected HTML, `escapeLeading` the block marker that opens a text, and
`escapeAll` first the one and then the other.
-/

namespace LiteralMarkdown

/-- The character that makes the next one literal. -/
def escapeMarker : Char := '\\'

/-- A backslash before every character of a delimiter. -/
def escapeDelimiter (delimiter : List Char) : List Char :=
  delimiter.flatMap fun c => [escapeMarker, c]

/-! ## Inline entities -/

/-- A match of a rule with its delimiters escaped and its content kept. A delimiter that took no
part in the match is left out. Patterns of `surrounding` rules are meant to have a second group: to
ask a pattern for a group that it does not have is an error elsewhere, and here such a group counts
as one that took no part. -/
def Match.escaped (m : Match) (arity : Arity) : List Char :=
  let leading := (m.group? EscapeRule.opening).getD []
  let trailing := match arity with
    | .leading => none
    | .surrounding => m.group? EscapeRule.closing
  match trailing with
  | none => escapeDelimiter leading ++ m.text.drop leading.length
  | some trailing =>
    escapeDelimiter leading ++
      (m.text.take (m.text.length - trailing.length)).drop leading.length ++
      escapeDelimiter trailing

/-- The text with the delimiters of every match of a rule escaped. -/
def escapeDelimiters (rule : EscapeRule) (text : List Char) : List Char :=
  rule.pattern.replaceAll (fun m => m.escaped rule.arity) text

/-- The text with the delimiters of every rule escaped, one rule after the other. -/
def escapeAllDelimiters (text : List Char) : List Char :=
  EscapeRule.all.foldl (fun text rule => escapeDelimiters rule text) text

/-- The text with its inline entities escaped outside protected HTML. -/
def escapeCommon (text : List Char) : List Char :=
  replaceWhen Protection.pattern escapeAllDelimiters true text

/-! ## Block markers -/

/-- What opens a heading, a list item, a quote, an underline, a table, indented code or a fence at
the beginning of a text, with any blanks before it. -/
def leadingMarker : Pattern :=
  Pattern.sequence [
    .start,
    .zeroOrMore (.chars (.ofItem .blank)),
    .group (.number 1) (.choice [
      .chars (.oneOf ['-', '#', '*', '>', '=', '|']),
      .atLeast 4 .greedy (.char ' '),
      .atLeast 3 .greedy (.char '\x60')])]

/-- The text with the block marker that opens it escaped. The blanks before the marker are dropped
together with the match. -/
def escapeLeading (text : List Char) : List Char :=
  leadingMarker.replaceFirst (fun m => escapeMarker :: (m.group? (.number 1)).getD []) text

/-- The text with its inline entities and then its opening block marker escaped: what a text needs
that comes first in its parent. -/
def escapeAll (text : List Char) : List Char := escapeLeading (escapeCommon text)

end LiteralMarkdown
