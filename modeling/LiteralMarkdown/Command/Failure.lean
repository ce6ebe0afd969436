import LiteralMarkdown.Files.Basic
import LiteralMarkdown.Json.Reader
import LiteralMarkdown.Settings.Error
import LiteralMarkdown.Tree.Escape

/-!
# Failures of commands

Why a command comes to no result. Most failures are reported in words; the others end the program
without a report of its own.
-/

namespace LiteralMarkdown.Command

/-- Why a command comes to no result. -/
inductive Failure where
  /-- There are no settings. -/
  | settings (e : SettingsError)
  /-- There is something else than a file at the place of the settings file. -/
  | settingsFile (problem : Files.Problem)
  /-- The path for the result is none that can be asked for. -/
  | unaskableTarget
  /-- The settings name a level that does not exist. -/
  | unknownLevel (name : String)
  /-- The document cannot be read. -/
  | unreadable (source : String) (problem : Files.Problem)
  /-- The document is no JSON. -/
  | notJson (source text : String) (fault : Json.Fault)
  /-- The text or the tree is refused. -/
  | refused (e : TreeError)
  /-- The indentation is no number of blanks that a text can have. -/
  | unusableIndent (blanks : Int)
  /-- The result holds what is no character, so that it cannot be encoded. -/
  | unencodable
  /-- The result cannot be written. -/
  | unwritable (problem : Files.Problem)

/-- The wording of a failure, if it is one that is reported. A document that asks for too much is
not, and neither is a path that cannot be asked for. -/
def Failure.message? (failure : Failure) (wording : Wording := {}) : Option String :=
  match failure with
  | .settings e => e.message? wording
  | .unreadable source problem =>
    (problem.message? (Path.ofText source)).map fun message =>
      "Cannot read " ++ source ++ ": " ++ message
  | .notJson source text fault =>
    if fault.cause.isLimit then none
    else some ("Invalid JSON in " ++ source ++ ": " ++ fault.message text.toList)
  | .refused e => some (e.message wording.hints)
  | .unaskableTarget | .settingsFile _ | .unknownLevel _ | .unusableIndent _ | .unencodable
  | .unwritable _ => none

end LiteralMarkdown.Command
