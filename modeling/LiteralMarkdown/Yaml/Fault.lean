import LiteralMarkdown.Text.Quoted

/-!
# Faults of YAML documents

Why a text is no YAML document that holds plain data. Most faults are told by the line that a report
of them begins with: what was being read when they showed, or else the fault itself. A part that is
well formed but stands for nothing is a fault without a report.
-/

namespace LiteralMarkdown.Yaml

/-- The kinds of nodes of a document. -/
inductive NodeKind where
  | scalar
  | sequence
  | mapping
deriving DecidableEq, Repr

/-- The word for a kind of node. -/
def NodeKind.word : NodeKind → String
  | .scalar => "scalar"
  | .sequence => "sequence"
  | .mapping => "mapping"

/-- Why a well-formed part of a document stands for nothing. -/
inductive Unusable where
  /-- It is no number. -/
  | number
  /-- It is an empty number. -/
  | emptyNumber
  /-- A place of a number in base sixty weighs more than any double. -/
  | heavyNumber
  /-- It is no truth value. -/
  | truth
  /-- It has the form of a date, but there is no such day or time. -/
  | date
  /-- It is marked as a point in time and does not have the form of one. -/
  | timeForm
  /-- It is marked as a point in time and is a mapping. -/
  | timeMapping
  /-- It is a code beyond the last character. -/
  | code
  /-- It is a code that takes up more than 31 bits. -/
  | longCode
  /-- It lies in too many collections, or has a value that is itself. -/
  | depth
deriving DecidableEq, Repr

/-- Why a text is no YAML document that holds plain data. -/
inductive Fault where
  /-- The text holds a control character. -/
  | unacceptable (c : Char)
  /-- No token begins with what follows. -/
  | noToken
  /-- A key that has to be one is not followed by a colon. -/
  | simpleKey
  /-- A dash stands where no sequence can begin. -/
  | sequenceNotAllowed
  /-- A question mark stands where no mapping can begin. -/
  | keyNotAllowed
  /-- A colon stands where no mapping can begin. -/
  | valueNotAllowed
  /-- A line that begins with a percent sign is no directive. -/
  | directive
  /-- The prefix in a directive for tags is missing. -/
  | directivePrefix
  /-- The name of an alias is missing or goes on wrongly. -/
  | aliasName
  /-- The name of an anchor is missing or goes on wrongly. -/
  | anchorName
  /-- A tag is not closed or has no suffix. -/
  | tagForm
  /-- A tag has a bad handle or goes on wrongly. -/
  | tagEnd
  /-- The header of a block scalar is wrong. -/
  | blockScalar
  /-- An escape in double quotes is wrong. -/
  | escape
  /-- A quoted scalar is not closed. -/
  | quotedScalar
  /-- A tag has a handle that no directive defines. -/
  | tagHandle
  /-- Something else stands where a node is expected in block context. -/
  | blockNode
  /-- Something else stands where a node is expected in flow context. -/
  | flowNode
  /-- A block sequence goes on wrongly. -/
  | blockSequence
  /-- A block mapping goes on wrongly. -/
  | blockMapping
  /-- A flow sequence goes on wrongly. -/
  | flowSequence
  /-- A flow mapping goes on wrongly. -/
  | flowMapping
  /-- Something else stands where a document has to begin. -/
  | documentStart (found : String)
  /-- The version is given twice. -/
  | duplicateVersion
  /-- The version is not one of the first series. -/
  | incompatibleVersion
  /-- A handle for tags is given twice. -/
  | duplicateHandle (handle : String)
  /-- An alias refers to no anchor before it. -/
  | undefinedAlias (name : String)
  /-- An anchor has the name of an earlier one. -/
  | duplicateAnchor (name : String)
  /-- Another document follows the first. -/
  | manyDocuments
  /-- A mapping has a collection as a key, or merges something that is no mapping. -/
  | mappingForm
  /-- A node of an ordered map is wrong. -/
  | orderedMapForm
  /-- A node of a list of pairs is wrong. -/
  | pairsForm
  /-- A tag asks for another kind of node. -/
  | wrongKind (expected found : NodeKind)
  /-- No kind of value goes by the tag. -/
  | unknownTag (tag : String)
  /-- The text of binary data is not encoded as it should be. -/
  | binaryForm (reason : String)
  /-- A well-formed part stands for nothing. -/
  | unusable (why : Unusable)
deriving DecidableEq, Repr

/-- The line that a report of the fault begins with, if it is one that is reported. -/
def Fault.message? : Fault → Option String
  | .unacceptable c =>
    some ("unacceptable character #x" ++ String.ofList (Text.hexCode 4 c.toNat) ++
      ": special characters are not allowed")
  | .noToken => some "while scanning for the next token"
  | .simpleKey => some "while scanning a simple key"
  | .sequenceNotAllowed => some "sequence entries are not allowed here"
  | .keyNotAllowed => some "mapping keys are not allowed here"
  | .valueNotAllowed => some "mapping values are not allowed here"
  | .directive => some "while scanning a directive"
  | .directivePrefix => some "while parsing a directive"
  | .aliasName => some "while scanning an alias"
  | .anchorName => some "while scanning an anchor"
  | .tagForm => some "while parsing a tag"
  | .tagEnd => some "while scanning a tag"
  | .blockScalar => some "while scanning a block scalar"
  | .escape => some "while scanning a double-quoted scalar"
  | .quotedScalar => some "while scanning a quoted scalar"
  | .tagHandle => some "while parsing a node"
  | .blockNode => some "while parsing a block node"
  | .flowNode => some "while parsing a flow node"
  | .blockSequence => some "while parsing a block collection"
  | .blockMapping => some "while parsing a block mapping"
  | .flowSequence => some "while parsing a flow sequence"
  | .flowMapping => some "while parsing a flow mapping"
  | .documentStart found => some ("expected '<document start>', but found " ++ Text.quoted found)
  | .duplicateVersion => some "found duplicate YAML directive"
  | .incompatibleVersion => some "found incompatible YAML document (version 1.* is required)"
  | .duplicateHandle handle => some ("duplicate tag handle " ++ Text.quoted handle)
  | .undefinedAlias name => some ("found undefined alias " ++ Text.quoted name)
  | .duplicateAnchor name =>
    some ("found duplicate anchor " ++ Text.quoted name ++ "; first occurrence")
  | .manyDocuments => some "expected a single document in the stream"
  | .mappingForm => some "while constructing a mapping"
  | .orderedMapForm => some "while constructing an ordered map"
  | .pairsForm => some "while constructing pairs"
  | .wrongKind expected found =>
    some ("expected a " ++ expected.word ++ " node, but found " ++ found.word)
  | .unknownTag tag => some ("could not determine a constructor for the tag " ++ Text.quoted tag)
  | .binaryForm reason => some reason
  | .unusable _ => none

end LiteralMarkdown.Yaml
