import LiteralMarkdown.Pattern.Notation
import LiteralMarkdown.Pattern.Scan

/-!
# Protected HTML

Two kinds of stretches are never escaped: opening HTML tags, whose attribute values may hold any
characters, and preformatted HTML blocks, whose whole body is literal. A block is everything from
the opening tag of `pre`, `style` or `script` to the first closing tag of the same name. The
opening tag of a preformatted element by itself is not protected.
-/

namespace LiteralMarkdown.Protection

open Pattern

/-- The names of the elements whose body is literal. -/
def preformattedTags : List String := ["pre", "style", "script"]

/-- One of the names of preformatted elements. -/
def preformattedName : Pattern := choice (preformattedTags.map fun s => literal s.toList)

/-- A value in quotes of one kind, without a quote of that kind inside. -/
def quoted (quote : Char) : Pattern :=
  sequence [.char quote, zeroOrMore (.chars (.noneOf [quote])), .char quote]

/-- An attribute: its name, an equals sign and a value in double or in single quotes, with blanks
before it. -/
def tagAttribute : Pattern :=
  sequence [
    zeroOrMore (.chars (.ofItem .blank)),
    oneOrMore (.chars ⟨false, [.word, .one '-']⟩),
    .char '=',
    .alt (quoted '\x22') (quoted '\x27')]

/-- What follows the name in an opening tag: attributes, blanks and the closing bracket. -/
def tagEnd : List Pattern :=
  [zeroOrMore tagAttribute, zeroOrMore (.chars (.ofItem .blank)), .char '>']

/-- The label of the name of a preformatted element. -/
def tagName : Label := .name "preformatted_tag"

/-- An opening tag of an element that is not preformatted. -/
def htmlTag : Pattern :=
  sequence ([.char '<', .notAhead (sequence [preformattedName, .wordBoundary]),
    oneOrMore (.chars (.ofItem .word))] ++ tagEnd)

/-- A preformatted element from its opening tag to the first closing tag of the same name. -/
def preformattedBlock : Pattern :=
  sequence ([.char '<', .group tagName preformattedName] ++ tagEnd ++
    [.atLeast 0 .lazy (.chars .any), .char '<', .char '/', .backref tagName, .char '>'])

/-- Any stretch that is left as it is. -/
def pattern : Pattern := combine [htmlTag, preformattedBlock]

end LiteralMarkdown.Protection
