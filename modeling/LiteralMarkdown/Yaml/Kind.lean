import LiteralMarkdown.Pattern.Whole

/-!
# Kinds of plain scalars

A plain scalar without a tag is null, a truth value, a number or a point in time if it is written as
one, and a text otherwise. The forms are those of version 1.1 of the language: numbers in base
sixty, underscores between digits and words such as `yes` and `off` are among them.
-/

namespace LiteralMarkdown.Yaml

/-- The stem of the tags of the language itself. -/
def tagStem : String := "tag:yaml.org,2002:"

/-- The kinds that a plain scalar can have. -/
inductive ScalarKind where
  | null
  | bool
  | int
  | float
  | timestamp
  | merge
  | value
  | text
deriving DecidableEq, Repr

/-- The tag of a kind. -/
def ScalarKind.tag (kind : ScalarKind) : String :=
  tagStem ++ match kind with
    | .null => "null"
    | .bool => "bool"
    | .int => "int"
    | .float => "float"
    | .timestamp => "timestamp"
    | .merge => "merge"
    | .value => "value"
    | .text => "str"

namespace ScalarKind

open Pattern

/-- One of some words. -/
def anyOf (words : List String) : Pattern := choice (words.map fun s => literal s.toList)

/-- A sign, if there is one. -/
def sign : Pattern := .optional (.chars (.oneOf ['-', '+']))

/-- One decimal digit. -/
def digit : Pattern := .chars ⟨false, [.span '0' '9']⟩

/-- Decimal digits and underscores, if there are any. -/
def digitsOrPauses : Pattern := zeroOrMore (.chars ⟨false, [.span '0' '9', .one '_']⟩)

/-- Further places of a number in base sixty. -/
def sixties : Pattern :=
  oneOrMore (sequence [.char ':', .optional (.chars ⟨false, [.span '0' '5']⟩), digit])

/-- The exponent of a number, if there is one. It has to have a sign. -/
def exponent : Pattern :=
  .optional (sequence [.chars (.oneOf ['e', 'E']), .chars (.oneOf ['-', '+']), oneOrMore digit])

/-- Truth values. -/
def boolForm : Pattern :=
  anyOf ["yes", "Yes", "YES", "no", "No", "NO", "true", "True", "TRUE", "false", "False", "FALSE",
    "on", "On", "ON", "off", "Off", "OFF"]

/-- Nulls. -/
def nullForm : Pattern := anyOf ["~", "null", "Null", "NULL", ""]

/-- Whole numbers in base two, eight, ten, sixteen and sixty. -/
def intForm : Pattern :=
  sequence [sign, choice [
    sequence [.char '0', .char 'b', oneOrMore (.chars (.oneOf ['0', '1', '_']))],
    sequence [.char '0', oneOrMore (.chars ⟨false, [.span '0' '7', .one '_']⟩)],
    .char '0',
    sequence [.char '0', .char 'x',
      oneOrMore (.chars ⟨false, [.span '0' '9', .span 'a' 'f', .span 'A' 'F', .one '_']⟩)],
    sequence [.chars ⟨false, [.span '1' '9']⟩, digitsOrPauses, .optional sixties]]]

/-- Numbers with a point, infinities and the value that is no number. -/
def floatForm : Pattern :=
  choice [
    sequence [sign, digit, digitsOrPauses, .char '.', digitsOrPauses, exponent],
    sequence [.char '.', digit, digitsOrPauses, exponent],
    sequence [sign, digit, digitsOrPauses, sixties, .char '.', digitsOrPauses],
    sequence [sign, .char '.', anyOf ["inf", "Inf", "INF"]],
    sequence [.char '.', anyOf ["nan", "NaN", "NAN"]]]

/-- One or two digits. -/
def oneOrTwo : Pattern := digit ++ .optional digit

/-- Two digits. -/
def two : Pattern := digit ++ digit

/-- Blanks on a line, if there are any. -/
def gap : Pattern := zeroOrMore (.chars (.oneOf [' ', '\t']))

/-- Days, and times of a day with an optional fraction and an optional offset. -/
def timestampForm : Pattern :=
  choice [
    sequence [two, two, .char '-', two, .char '-', two],
    sequence [two, two, .char '-', oneOrTwo, .char '-', oneOrTwo,
      choice [.chars (.oneOf ['T', 't']), oneOrMore (.chars (.oneOf [' ', '\t']))],
      oneOrTwo, .char ':', two, .char ':', two,
      .optional (sequence [.char '.', zeroOrMore digit]),
      .optional (sequence [gap, choice [.char 'Z',
        sequence [.chars (.oneOf ['-', '+']), oneOrTwo,
          .optional (sequence [.char ':', two])]]])]]

/-- A text without the line feed that it may end in. -/
def withoutLineFeed (text : List Char) : List Char :=
  if text.getLast? = some '\n' then text.dropLast else text

/-- The kind that a text has by its form. A line feed at its end does not count, unless it is all of
the text. -/
def ofForm (text : List Char) : ScalarKind :=
  let form := withoutLineFeed text
  if text = ['\n'] then .text
  else if boolForm.matchesWhole form then .bool
  else if floatForm.matchesWhole form then .float
  else if intForm.matchesWhole form then .int
  else if form = ['<', '<'] then .merge
  else if nullForm.matchesWhole form then .null
  else if timestampForm.matchesWhole form then .timestamp
  else if form = ['='] then .value
  else .text

end ScalarKind

end LiteralMarkdown.Yaml
