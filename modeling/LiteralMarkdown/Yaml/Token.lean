import LiteralMarkdown.Text.Sign

/-!
# Tokens of YAML documents

The tokens of which documents are made. The layout of block collections is told by tokens of their
own, so that a reader of tokens need not know about columns.
-/

namespace LiteralMarkdown.Yaml

/-- What a directive says. -/
inductive Directive where
  /-- The version of the language. -/
  | version (major minor : Nat)
  /-- What a handle of tags stands for. -/
  | handle (handle stem : String)
  /-- Anything else, which is ignored. -/
  | other
deriving DecidableEq, Repr

/-- How a scalar is written. -/
inductive ScalarForm where
  | plain
  /-- In quotes, or as an indented block. -/
  | setApart
deriving DecidableEq, Repr

/-- Tokens. -/
inductive Token where
  | streamEnd
  | directive (d : Directive)
  | documentStart
  | documentEnd
  | blockSequenceStart
  | blockMappingStart
  | blockEnd
  | flowSequenceStart
  | flowSequenceEnd
  | flowMappingStart
  | flowMappingEnd
  | blockEntry
  | flowEntry
  | key
  | value
  | alias (name : String)
  | anchor (name : String)
  | tag (handle : Option String) (suffix : String)
  | scalar (text : List Text.Sign) (form : ScalarForm)
deriving DecidableEq, Repr

/-- How a report calls a token. -/
def Token.name : Token → String
  | .streamEnd => "<stream end>"
  | .directive _ => "<directive>"
  | .documentStart => "<document start>"
  | .documentEnd => "<document end>"
  | .blockSequenceStart => "<block sequence start>"
  | .blockMappingStart => "<block mapping start>"
  | .blockEnd => "<block end>"
  | .flowSequenceStart => "["
  | .flowSequenceEnd => "]"
  | .flowMappingStart => "\x7b"
  | .flowMappingEnd => "\x7d"
  | .blockEntry => "-"
  | .flowEntry => ","
  | .key => "?"
  | .value => ":"
  | .alias _ => "<alias>"
  | .anchor _ => "<anchor>"
  | .tag .. => "<tag>"
  | .scalar .. => "<scalar>"

end LiteralMarkdown.Yaml
