import LiteralMarkdown.Files.Path
import LiteralMarkdown.Schema.Fault
import LiteralMarkdown.Settings.Environment
import LiteralMarkdown.Yaml.Fault

/-!
# Errors of settings

Why there are no settings for a run. Faults in the contents of the settings file and limits that are
not positive are reported in words. Whatever else goes wrong has no wording of its own: it ends the
program.
-/

namespace LiteralMarkdown

/-- Where the settings file lies below the directory of a run. -/
def Settings.filePath : String := ".mdescape/config.yaml"

/-- What messages depend on besides what they tell. -/
structure Wording where
  /-- The directory of the run. A dot leaves the path of the settings file as it is. -/
  directory : String := "."
  /-- The lines that reports add to faults of values. -/
  hints : Schema.Hints := fun _ => []
  /-- The lines below the first one in the report of a fault of the settings file: they tell where
  it shows. -/
  details : Yaml.Fault → List String := fun _ => []

/-- How messages name the settings file. -/
def Wording.settingsPath (wording : Wording) : String :=
  ((Path.ofText wording.directory).join (Path.ofText Settings.filePath)).text

/-- Why there are no settings. -/
inductive SettingsError where
  /-- Instructions on where to look for values cannot be followed. -/
  | unusableLookup
  /-- The variable of a list does not hold JSON. -/
  | undecodable (why : Environment.Undecodable)
  /-- The values break the schema of settings, and none of them comes from a file. -/
  | invalid (faults : List Schema.Fault)
  /-- The file does not hold plain data. -/
  | unreadableFile (fault : Yaml.Fault)
  /-- The file holds something that is no mapping. -/
  | fileNotMapping
  /-- The section of the file holds something else than named values. -/
  | sectionNotNamed
  /-- The values break the schema of settings, and a file has been read for them. -/
  | invalidFile (faults : List Schema.Fault)
  /-- A limit that takes the place of another one is not positive. -/
  | limitNotPositive

namespace SettingsError

/-- The wording of an error, if it is one that is reported. Values that break the schema are told on
lines of their own. -/
def message? (e : SettingsError) (wording : Wording := {}) : Option String :=
  match e with
  | .unreadableFile fault =>
    fault.message?.map fun message => "Invalid YAML in " ++ wording.settingsPath ++ ": " ++
      "\n".intercalate (message :: wording.details fault)
  | .invalidFile faults =>
    some ("Invalid escape config in " ++ wording.settingsPath ++ ": " ++
      Schema.report wording.hints "EscapeConfig" faults)
  | .limitNotPositive => some "max_value_length must be positive"
  | .unusableLookup | .undecodable _ | .invalid _ | .fileNotMapping | .sectionNotNamed => none

end SettingsError

end LiteralMarkdown
