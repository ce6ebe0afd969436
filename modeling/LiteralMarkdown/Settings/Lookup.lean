import LiteralMarkdown.Data.Basic
import LiteralMarkdown.Settings.Basic

/-!
# How variables are looked up

Which variable of the environment belongs to a setting, and which texts of variables are special.
Named values whose names begin with an underscore can change that: they are instructions and no
settings. An instruction that is null changes nothing. Some instructions reach beyond variables, and
what they lead to is not told here.
-/

namespace LiteralMarkdown

/-- A name in small letters. -/
def lowered (name : String) : String := String.ofList (name.toList.map Char.toLower)

/-- How variables of the environment are looked up. -/
structure Lookup where
  /-- What the name of a variable begins with, in front of the name of its setting. -/
  stem : String
  /-- Whether capital and small letters are told apart. -/
  exact : Bool
  /-- Whether an empty variable counts as none. -/
  skipEmpty : Bool
  /-- The text of a variable that gives null. -/
  nullText : Option String
deriving DecidableEq, Repr

namespace Lookup

/-- How variables are looked up without instructions. -/
def default : Lookup where
  stem := "MDESCAPE_"
  exact := false
  skipEmpty := false
  nullText := none

/-- Whether a name is the name of the variable of a setting. -/
def finds (lookup : Lookup) (field : Settings.Field) (name : String) : Bool :=
  let wanted := lookup.stem ++ field.name
  if lookup.exact then name == wanted else lowered name == lowered wanted

/-! ## Instructions -/

/-- The instructions that say how variables are looked up. -/
def lookupInstructions : List String :=
  ["_case_sensitive", "_env_prefix", "_env_ignore_empty", "_env_parse_none_str"]

/-- The instructions that reach beyond that: to files and command lines with more values, or to
parts of values. -/
def otherInstructions : List String := [
  "_nested_model_default_partial_update", "_env_file", "_env_file_encoding",
  "_env_nested_delimiter", "_env_nested_max_split", "_env_parse_enums", "_cli_prog_name",
  "_cli_parse_args", "_cli_settings_source", "_cli_parse_none_str", "_cli_hide_none_type",
  "_cli_avoid_json", "_cli_enforce_required", "_cli_use_class_docs_for_groups",
  "_cli_exit_on_error", "_cli_prefix", "_cli_flag_prefix_char", "_cli_implicit_flags",
  "_cli_ignore_unknown_args", "_cli_kebab_case", "_cli_shortcuts", "_secrets_dir"]

/-- The names of all instructions. -/
def instructions : List String := lookupInstructions ++ otherInstructions

/-- The name of the settings as a whole, under which nothing can be given. -/
def ownName : String := "__pydantic_self__"

/-- The value of an instruction among named values. -/
def instruction? (fields : List (String × Data)) (name : String) : Option Data :=
  match fields.lookup name with
  | none | some .null => none
  | some value => some value

/-- Whether there is an instruction among named values that reaches beyond variables. -/
def reachesBeyond (fields : List (String × Data)) : Bool :=
  otherInstructions.any fun name => (instruction? fields name).isSome

/-- How variables are looked up under the instructions among named values, or none if these cannot
be followed. -/
def ofFields? (fields : List (String × Data)) : Option Lookup := do
  let stem ← match instruction? fields "_env_prefix" with
    | none => some default.stem
    | some (.text stem) => some stem
    | some (.brokenText signs) => some (Text.spelled signs)
    | some _ => none
  let nullText := match instruction? fields "_env_parse_none_str" with
    | some (.text text) => some text
    | _ => none
  let holds (name : String) : Bool := (instruction? fields name).any fun value => !value.isVoid
  if (fields.lookup ownName).isNone then
    return {
      stem, nullText
      exact := holds "_case_sensitive"
      skipEmpty := holds "_env_ignore_empty" }
  else none

/-- Named values without the instructions. -/
def withoutInstructions (fields : List (String × Data)) : List (String × Data) :=
  fields.filter fun field => !instructions.contains field.1

end Lookup

end LiteralMarkdown
