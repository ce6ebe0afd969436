/-!
# Settings

What is escaped in a tree, what is left alone, how long a value may be, and how much is reported.
-/

namespace LiteralMarkdown

/-- The settings of an escaping run. -/
structure Settings where
  /-- The types of the nodes whose value is escaped. -/
  textTypes : List String
  /-- The types of the nodes that are left untouched, with everything below them. -/
  passthroughTypes : List String
  /-- The length that a value may not exceed. -/
  maxValueLength : Option Nat
  /-- The least level that is reported. -/
  logLevel : String
deriving DecidableEq, Repr

namespace Settings

/-- The settings where nothing is set. -/
def default : Settings where
  textTypes := ["text", "html"]
  passthroughTypes := []
  maxValueLength := none
  logLevel := "WARNING"

/-- The settings by their names. -/
inductive Field where
  | textTypes
  | passthroughTypes
  | maxValueLength
  | logLevel
deriving DecidableEq, Repr

namespace Field

/-- All settings, in their order. -/
def all : List Field := [.textTypes, .passthroughTypes, .maxValueLength, .logLevel]

/-- The name of a setting in files and, after a stem, in the environment. -/
def name : Field → String
  | .textTypes => "text_types"
  | .passthroughTypes => "passthrough_types"
  | .maxValueLength => "max_value_length"
  | .logLevel => "log_level"

/-- Whether the setting is a list. -/
def isList : Field → Bool
  | .textTypes | .passthroughTypes => true
  | .maxValueLength | .logLevel => false

end Field

end Settings

end LiteralMarkdown
