import LiteralMarkdown.Command.Style
import LiteralMarkdown.Command.TagValue

/-!
# Markup in notes

Notes are shown with markup: a tag in square brackets that begins with a small letter, `#`, `/` or
`@` sets a style and does not show. A tag that begins with a slash ends a style, the one it names or
else the last one, and it is an error if there is no such style, or if a style that begins with `@`
ends and its value cannot be read. It is an error, too, if the name of a style cannot be read, or
the style as a whole where something is shown in it. A backslash in front of a tag makes it show.
Codes of emoji show as the emoji.
-/

namespace LiteralMarkdown.Command

/-- Whether the character is a control that notes leave out. -/
def isDropped (c : Char) : Bool := [7, 8, 11, 12, 13].contains c.toNat

/-- A text without the controls that notes leave out. -/
def kept (text : List Char) : List Char := text.filter fun c => !isDropped c

namespace Markup

open Pattern

/-- Backslashes and a tag behind them. -/
def tag : Pattern :=
  .sequence [
    .group (.number 1) (.zeroOrMore (.char '\\')),
    .char '[',
    .group (.number 2) (.sequence [
      .chars ⟨false, [.span 'a' 'z', .one '#', .one '/', .one '@']⟩,
      .atLeast 0 .lazy (.chars (.noneOf ['[']))]),
    .char ']']

/-- The number of backslashes in front of a tag. -/
def slashesOf (m : Match) : Nat := ((m.group? (.number 1)).getD []).length

/-- What stands between the brackets of a tag. -/
def insideOf (m : Match) : List Char := (m.group? (.number 2)).getD []

/-- The text without the backslashes that stand before a bracket. -/
def unescaped : List Char → List Char
  | '\\' :: '[' :: rest => '[' :: unescaped rest
  | c :: rest => c :: unescaped rest
  | [] => []

/-- Text outside tags, as it shows. -/
def plain (text : List Char) : List Char := Text.replaceEmoji (unescaped text)

/-- A style that a tag sets: its settled name, and its value if it has one. -/
structure TagStyle where
  name : String
  value : Option (List Char)

namespace TagStyle

/-- The style that a tag sets, if its name can be read. A tag has the name in front of an equals
sign, and the value behind it. -/
def ofTag? (inside : List Char) : Option TagStyle :=
  let name := inside.takeWhile (· != '=')
  (Style.settledName? name).map fun settled => ⟨settled, (inside.drop name.length).tail?⟩

/-- The style as a whole. -/
def text (style : TagStyle) : List Char := style.name.toList ++ style.value.elim [] (' ' :: ·)

/-- Whether a style names an action. -/
def isAction (style : TagStyle) : Bool := style.name.startsWith "@"

/-- Whether a style can end. An action must have a value that can be read, if it has one. -/
def canEnd (style : TagStyle) : Bool :=
  !style.isAction || style.value.all fun value => value.isEmpty || TagValue.isReadable value

end TagStyle

/-- A style that is on, and the number of characters that had been shown when it began. -/
structure OpenStyle extends TagStyle where
  start : Nat

/-- A stretch of what is shown, in a style. -/
structure Cover where
  style : List Char
  text : List Char

/-- Whether the style of a stretch is looked at. It is if the stretch has more in it than ends of
lines. If it has nothing at all in it then its style still counts in a note of a single line without
tabs. That a line can be too long to be shown as one is left out of account. -/
def Cover.counts (cover : Cover) (whole : List Char) : Bool :=
  let text := kept cover.text
  text.any (· != '\n') || text.isEmpty && !whole.any fun c => c == '\n' || c == '\t'

/-- Whether a stretch can be shown in a note. -/
def Cover.canShow (cover : Cover) (whole : List Char) : Bool :=
  !cover.counts whole || Style.isReadable cover.style

/-- What has been shown of a note: the finished text in reverse, the text since the last tag in
reverse, the styles that are on, the last one first, and the stretches of those that have ended. -/
structure Shown where
  done : List Char
  pending : List Char
  styles : List OpenStyle
  covers : List Cover

namespace Shown

/-- With the text since the last tag finished. -/
def settle (shown : Shown) : Shown :=
  { shown with done := (plain shown.pending.reverse).reverse ++ shown.done, pending := [] }

/-- With some text finished. -/
def add (shown : Shown) (text : List Char) : Shown :=
  { shown with done := text.reverse ++ shown.done }

/-- What is shown in a style up to here. -/
def cover (shown : Shown) (style : OpenStyle) : Cover :=
  ⟨style.text, (shown.done.take (shown.done.length - style.start)).reverse⟩

/-- With the last one of some styles switched off. An action leaves no stretch behind. -/
def endStyle? (shown : Shown) (ends : OpenStyle → Bool) : Option Shown :=
  (shown.styles.find? ends).bind fun style =>
    let covers := if style.isAction then shown.covers else shown.cover style :: shown.covers
    if style.canEnd then some { shown with styles := shown.styles.eraseP ends, covers } else none

/-- With a style switched on, or switched off by a tag that begins with a slash. -/
def style? (shown : Shown) (inside : List Char) : Option Shown :=
  match inside.takeWhile (· != '=') with
  | '/' :: name =>
    if name.all Text.isBlank then shown.endStyle? fun _ => true
    else (Style.settledName? name).bind fun name => shown.endStyle? fun style => style.name == name
  | _ =>
    (TagStyle.ofTag? inside).map fun style =>
      { shown with styles := ⟨style, shown.done.length⟩ :: shown.styles }

/-- With one more piece of a note. Of the backslashes in front of a tag every second one shows, and
if one is left over then the tag does, too. -/
def next? (shown : Shown) : Piece → Option Shown
  | .skipped c => some { shown with pending := c :: shown.pending }
  | .found m =>
    let shown := shown.settle.add (List.replicate (slashesOf m / 2) '\\')
    if slashesOf m % 2 = 1 then some (shown.add (plain ('[' :: insideOf m ++ [']'])))
    else shown.style? (insideOf m)

/-- What a note shows that has come to its end, if its stretches can be shown. -/
def finish? (shown : Shown) : Option (List Char) :=
  let shown := shown.settle
  let covers := shown.styles.map shown.cover ++ shown.covers
  if covers.all fun cover => cover.canShow shown.done then some shown.done.reverse else none

end Shown

/-- The text that a note shows, or none if it is an error in some way. -/
def show? (note : List Char) : Option (List Char) :=
  ((tag.scan note).foldlM Shown.next? ⟨[], [], [], []⟩).bind Shown.finish?

end Markup

end LiteralMarkdown.Command
