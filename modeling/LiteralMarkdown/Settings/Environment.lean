import LiteralMarkdown.Json.Reader
import LiteralMarkdown.Settings.Lookup

/-!
# Settings in the environment

Every setting can be given by a variable of the environment, whose name is that of the setting after
`MDESCAPE_`, in capital or in small letters, unless it is to be looked up differently. Variables of
lists hold JSON, the others hold their value as it is.
-/

namespace LiteralMarkdown

/-- The variables that surround a run: their names and their texts, the later ones last. -/
abbrev Environment := List (String × String)

namespace Environment

/-- The text of the variable of a setting: the last of all that the setting can have. -/
def text? (env : Environment) (lookup : Lookup) (field : Settings.Field) : Option String :=
  env.foldl (fun found (name, text) =>
    if lookup.finds field name ∧ ¬ (lookup.skipEmpty ∧ text = "") then some text else found) none

/-- Why the environment gives no settings: the variable of a list does not hold JSON. -/
structure Undecodable where
  field : Settings.Field
  fault : Json.Fault
deriving DecidableEq, Repr

/-- The value that the environment gives to a setting, if any. A variable of a list that holds null
gives none; one that does not hold JSON is an error. -/
def value? (env : Environment) (lookup : Lookup) (field : Settings.Field) :
    Except Undecodable (Option Data) :=
  match env.text? lookup field with
  | none => .ok none
  | some text =>
    if lookup.nullText = some text then .ok (some .null)
    else if field.isList then
      match Json.read text.toList with
      | .error fault => .error ⟨field, fault⟩
      | .ok .null => .ok none
      | .ok value => .ok (some value)
    else .ok (some (.text text))

/-- The settings that the environment gives some fields. -/
def valuesOf (env : Environment) (lookup : Lookup) :
    List Settings.Field → Except Undecodable (List (String × Data))
  | [] => .ok []
  | field :: fields => do
    let value? ← env.value? lookup field
    let rest ← env.valuesOf lookup fields
    return (value?.map fun value => (field.name, value)).toList ++ rest

/-- The settings that the environment gives. -/
def values (env : Environment) (lookup : Lookup) : Except Undecodable (List (String × Data)) :=
  env.valuesOf lookup Settings.Field.all

end Environment

end LiteralMarkdown
