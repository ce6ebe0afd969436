import LiteralMarkdown.Schema.Value
import LiteralMarkdown.Settings.Basic

/-!
# The schema of settings

Settings are read from named values. Every setting that has no value there has its default, and a
name that belongs to no setting is a fault. Faults come in the order of the settings, and those of
unknown names after them.
-/

namespace LiteralMarkdown.Settings

open Schema

/-- The value of a setting among named values, or its default if there is none. -/
def readField {α : Type} (check : Data → Checked α) (field : Field) (default : α)
    (fields : List (String × Data)) : Checked α :=
  match fields.lookup field.name with
  | none => .ok default
  | some value => Checked.under [.name field.name] (check value)

/-- The names of all settings. -/
def names : List String := Field.all.map Field.name

/-- That every name is the name of a setting. -/
def checkNames (fields : List (String × Data)) : Checked Unit :=
  match fields.filter fun field => !names.contains field.1 with
  | [] => .ok ()
  | unknown => .error (unknown.map fun field => ⟨[.name field.1], .unknownName, field.2⟩)

/-- The settings that named values give. -/
def ofFields (fields : List (String × Data)) : Checked Settings :=
  let lists := Checked.both
    (readField checkTexts .textTypes default.textTypes fields)
    (readField checkTexts .passthroughTypes default.passthroughTypes fields)
  let scalars := Checked.both
    (readField checkLimit .maxValueLength default.maxValueLength fields)
    (readField checkText .logLevel default.logLevel fields)
  (Checked.both (Checked.both lists scalars) (checkNames fields)).map
    fun (((textTypes, passthroughTypes), (maxValueLength, logLevel)), _) =>
      { textTypes, passthroughTypes, maxValueLength, logLevel }

/-- Named values, with others for the names that have none among them. -/
def withFallback (fields others : List (String × Data)) : List (String × Data) :=
  fields ++ others.filter fun other => (fields.lookup other.1).isNone

end LiteralMarkdown.Settings
