/-!
# Switches

A switch is what a command can be told beside its arguments: a flag, or an option with a value. In
full it is written with two dashes, and an option then has its value behind an equals sign or as
the next word. Some switches have a single letter too; letters can share one dash, and an option by
letter takes the rest of its word as value, if there is any. Two dashes alone end the switches.
-/

namespace LiteralMarkdown.Command

/-- A switch of a command, which tells it the meaning `κ`. -/
structure Switch (κ : Type) where
  meaning : κ
  name : String
  letter : Option Char
  takesValue : Bool

/-- What a command is told: switches in their order, with the values of options, and the
arguments. -/
structure Told (κ : Type) where
  switches : List (κ × String)
  arguments : List String

namespace Told

variable {κ : Type}

/-- With an argument in front. -/
def addArgument (argument : String) (told : Told κ) : Told κ :=
  { told with arguments := argument :: told.arguments }

/-- Whether a switch is among those told. -/
def has [DecidableEq κ] (told : Told κ) (meaning : κ) : Bool :=
  told.switches.any fun switch => switch.1 = meaning

/-- The value of an option: the last one counts. -/
def value? [DecidableEq κ] (told : Told κ) (meaning : κ) : Option String :=
  told.switches.reverse.lookup meaning

end Told

/-- What one word tells: switches that are complete, and perhaps an option whose value has to
follow. -/
structure Word (κ : Type) where
  switches : List (κ × String)
  open? : Option κ

/-- The switches of letters behind a dash, if all of them are known. -/
def ofLetters {κ : Type} (known : List (Switch κ)) : List Char → Option (Word κ)
  | [] => some ⟨[], none⟩
  | c :: rest =>
    match known.find? fun switch => switch.letter = some c with
    | none => none
    | some switch =>
      if switch.takesValue then
        if rest.isEmpty then some ⟨[], some switch.meaning⟩
        else some ⟨[(switch.meaning, String.ofList rest)], none⟩
      else (ofLetters known rest).map fun word =>
        { word with switches := (switch.meaning, "") :: word.switches }

/-- The switch of a word with a dash in front, if it is known and well formed. -/
def ofWord {κ : Type} (known : List (Switch κ)) (word : List Char) : Option (Word κ) :=
  let name := word.takeWhile (· != '=')
  match known.find? fun switch => switch.name.toList = name, word.drop name.length with
  | some switch, [] =>
    if switch.takesValue then some ⟨[], some switch.meaning⟩
    else some ⟨[(switch.meaning, "")], none⟩
  | some switch, _ :: value =>
    if switch.takesValue then some ⟨[(switch.meaning, String.ofList value)], none⟩ else none
  | none, _ =>
    match word with
    | '-' :: '-' :: _ => none
    | _ => ofLetters known (word.drop 1)

/-- What words tell a command, or none if they are not understood. If the command has subcommands,
everything from the first argument on is left to them. -/
def tell {κ : Type} (known : List (Switch κ)) (subcommands : Bool) :
    List String → Option (Told κ)
  | [] => some ⟨[], []⟩
  | word :: words =>
    match word.toList with
    | ['-', '-'] => some ⟨[], words⟩
    | '-' :: c :: rest =>
      match ofWord known ('-' :: c :: rest) with
      | none => none
      | some ⟨switches, none⟩ =>
        (tell known subcommands words).map fun told =>
          { told with switches := switches ++ told.switches }
      | some ⟨switches, some option⟩ =>
        match words with
        | [] => none
        | value :: words =>
          (tell known subcommands words).map fun told =>
            { told with switches := switches ++ (option, value) :: told.switches }
    | _ =>
      if subcommands then some ⟨[], word :: words⟩
      else (tell known subcommands words).map (·.addArgument word)

end LiteralMarkdown.Command
