import LiteralMarkdown.Command.Switch
import LiteralMarkdown.Text.Integer

/-!
# Invocations

What the program is asked to do: tell its version, explain itself, escape one text, or escape one
tree. Whatever the words of a command line do not say has its default; words that are not understood
ask for nothing.
-/

namespace LiteralMarkdown.Command

/-- A text to escape. -/
structure TextRequest where
  text : String
  /-- Whether a block marker that opens the text is left alone. -/
  commonOnly : Bool
  maxLength : Option Int
deriving DecidableEq, Repr

/-- A tree to escape. -/
structure TreeRequest where
  /-- The path of the document, or a dash for the input. -/
  source : String
  /-- The path of the file for the result, if it is not for the output. -/
  target : Option String
  indent : Option Int
  maxLength : Option Int
  verbose : Bool
deriving DecidableEq, Repr

/-- What the program is asked to do. -/
inductive Invocation where
  | version
  | help
  | text (request : TextRequest)
  | tree (request : TreeRequest)
deriving DecidableEq, Repr

/-! ## Switches -/

/-- What switches in front of a command ask for. -/
inductive MainSwitch where
  | version
  | help
deriving DecidableEq, Repr

/-- What switches of the commands say. -/
inductive CommandSwitch where
  | commonOnly
  | maxLength
  | target
  | indent
  | verbose
  | help
deriving DecidableEq, Repr

/-- The switches in front of a command. -/
def mainSwitches : List (Switch MainSwitch) :=
  [⟨.version, "--version", some 'v', false⟩, ⟨.help, "--help", none, false⟩]

/-- The switches of the command for one text. -/
def textSwitches : List (Switch CommandSwitch) :=
  [⟨.commonOnly, "--common-only", none, false⟩, ⟨.maxLength, "--max-length", none, true⟩,
    ⟨.help, "--help", none, false⟩]

/-- The switches of the command for one tree. -/
def treeSwitches : List (Switch CommandSwitch) :=
  [⟨.target, "--output", some 'o', true⟩, ⟨.indent, "--indent", none, true⟩,
    ⟨.maxLength, "--max-length", none, true⟩, ⟨.verbose, "--verbose", none, false⟩,
    ⟨.help, "--help", none, false⟩]

/-! ## Command lines -/

/-- The whole number that an option gives, if it is given at all; the outer none says that what is
given is no whole number. -/
def integerOption (told : Told CommandSwitch) (switch : CommandSwitch) : Option (Option Int) :=
  match told.value? switch with
  | none => some none
  | some value => (Text.readInteger? value.toList).map some

/-- The request to escape a text. -/
def textRequest? (told : Told CommandSwitch) : Option Invocation := do
  let maxLength ← integerOption told .maxLength
  match told.arguments with
  | [text] => return .text { text, commonOnly := told.has .commonOnly, maxLength }
  | _ => none

/-- The request to escape a tree. -/
def treeRequest? (told : Told CommandSwitch) : Option Invocation := do
  let indent ← integerOption told .indent
  let maxLength ← integerOption told .maxLength
  let request (source : String) : TreeRequest :=
    { source, target := told.value? .target, indent, maxLength, verbose := told.has .verbose }
  match told.arguments with
  | [] => return .tree (request "-")
  | [source] => return .tree (request source)
  | _ => none

/-- The invocation of a command by its name and the words behind it. -/
def commandOf? (name : String) (words : List String) : Option Invocation := do
  let (switches, request?) ← match name with
    | "text" => some (textSwitches, textRequest?)
    | "tree" => some (treeSwitches, treeRequest?)
    | _ => none
  let told ← tell switches false words
  if told.has .help then return .help else request? told

/-- The invocation that a command line asks for, or none if it is not understood. -/
def Invocation.ofWords? (words : List String) : Option Invocation := do
  let told ← tell mainSwitches true words
  match told.switches with
  | (.version, _) :: _ => return .version
  | (.help, _) :: _ => return .help
  | [] =>
    match told.arguments with
    | [] => none
    | name :: words => commandOf? name words

end LiteralMarkdown.Command
