import LiteralMarkdown.Settings.Error
import LiteralMarkdown.Settings.Schema
import LiteralMarkdown.Text.LineBreak
import LiteralMarkdown.Yaml.Contents

/-!
# Reading settings

Settings come from three places: values given by name, the environment, and the defaults, each of
which is asked only for what the ones before it do not give. The values by name can come from the
`escape` section of a settings file. Single settings can be replaced afterwards.
-/

namespace LiteralMarkdown

namespace Settings

/-- The settings of an environment that is looked up in some way, with values given by name in front
of it. -/
def readThrough (lookup : Lookup) (env : Environment) (fields : List (String × Data)) :
    Except SettingsError Settings :=
  match env.values lookup with
  | .error why => .error (.undecodable why)
  | .ok others => (ofFields (withFallback fields others)).mapError .invalid

/-- All values that instructions beyond variables lead to, given an environment and the named values
among which they stand; or none if they cannot be followed. -/
abbrev OtherSources := Environment → List (String × Data) → Option (List (String × Data))

/-- The settings of an environment, with values given by name in front of it. Among these there may
be instructions on how to look up the environment, and others that name further sources. -/
def read (env : Environment) (fields : List (String × Data))
    (others : OtherSources := fun _ _ => none) : Except SettingsError Settings :=
  if Lookup.reachesBeyond fields then
    match others env fields with
    | none => .error .unusableLookup
    | some values => (ofFields values).mapError .invalid
  else match Lookup.ofFields? fields with
    | none => .error .unusableLookup
    | some lookup => readThrough lookup env (Lookup.withoutInstructions fields)

/-! ## The file -/

/-- The section of settings in what a file holds. There is none if the file or the section holds
nothing to speak of. -/
def sectionOf? (contents : Yaml.Contents) : Except SettingsError (Option Nat) :=
  if contents.isVoid contents.root then .ok none
  else match contents.entries? contents.root with
    | none => .error .fileNotMapping
    | some entries => .ok ((Data.valueOf? "escape" entries).filter fun n => !contents.isVoid n)

/-- Whether a key is a text, be it a text of characters or not. -/
def isName : Data → Bool
  | .text _ | .brokenText _ => true
  | _ => false

/-- The entries of a section. It has to be a mapping whose keys are all texts. -/
def entriesOf (contents : Yaml.Contents) (n : Nat) : Except SettingsError (List (Data × Data)) :=
  match contents.entries? n with
  | some entries =>
    if entries.all fun entry => isName entry.1 then
      .ok (entries.map fun (key, value) => (key, contents.data value))
    else .error .sectionNotNamed
  | none => .error .sectionNotNamed

/-- The entries of the section of settings that the text of a settings file holds. -/
def entriesOfFile (text : List Char) : Except SettingsError (List (Data × Data)) :=
  match Yaml.read? (Text.unifyLineBreaks text) with
  | .error fault => .error (.unreadableFile fault)
  | .ok none => .ok []
  | .ok (some contents) => do
    match ← sectionOf? contents with
    | none => return []
    | some n => entriesOf contents n

/-- The named values among the entries of a section. -/
def namedValues (entries : List (Data × Data)) : List (String × Data) :=
  entries.filterMap fun
    | (.text name, value) => some (name, value)
    | _ => none

/-- The settings of an environment, with the entries of a section in front of it. A key that is no
text of characters hides all other faults of values. -/
def readEntries (env : Environment) (entries : List (Data × Data))
    (others : OtherSources := fun _ _ => none) : Except SettingsError Settings :=
  match Data.brokenKey? entries with
  | none => read env (namedValues entries) others
  | some key =>
    match read env (namedValues entries) others with
    | .ok _ | .error (.invalid _) => .error (.invalid [⟨[], .notUnicode, key⟩])
    | .error e => .error e

/-- An error in values of which a file gives some. -/
def inFile : SettingsError → SettingsError
  | .invalid faults => .invalidFile faults
  | e => e

/-- The settings of an environment, with those of a settings file in front of it if there is one. -/
def load (env : Environment) (file : Option String) (others : OtherSources := fun _ _ => none) :
    Except SettingsError Settings :=
  match file with
  | none => read env []
  | some text =>
    ((entriesOfFile text.toList).bind fun entries => readEntries env entries others).mapError inFile

end Settings

/-! ## Overrides -/

/-- Settings that take the place of others. -/
structure Overrides where
  maxValueLength : Option Int
  logLevel : Option String
deriving DecidableEq, Repr

/-- Settings with some of them replaced. Nothing is replaced if the limit to set is not positive. -/
def Overrides.apply (overrides : Overrides) (settings : Settings) : Except SettingsError Settings :=
  let logLevel := overrides.logLevel.getD settings.logLevel
  match overrides.maxValueLength with
  | none => .ok { settings with logLevel }
  | some limit =>
    if limit ≤ 0 then .error .limitNotPositive
    else .ok { settings with maxValueLength := some limit.toNat, logLevel }

end LiteralMarkdown
