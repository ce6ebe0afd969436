import LiteralMarkdown.Command.Display
import LiteralMarkdown.Command.Failure
import LiteralMarkdown.Command.Invocation
import LiteralMarkdown.Json.Writer
import LiteralMarkdown.Settings.Reading
import LiteralMarkdown.Tree.Document

/-!
# Running commands

A run begins with the words of a command line, the environment, the files and the input, and leaves
an outcome: how it ended, what it printed, what it logged and noted, and the files. A command goes
through its stages in a fixed order and stops at the first one that fails; nothing is printed or
written before the last one.
-/

namespace LiteralMarkdown.Command

/-- What a run finds when it begins. -/
structure Surroundings where
  env : Environment
  files : Files
  input : String
  /-- What its messages depend on besides what they tell. -/
  wording : Wording := {}
  /-- Where instructions in the settings file lead that reach beyond variables. -/
  others : Settings.OtherSources := fun _ _ => none

/-! ## Settings -/

/-- The text of the settings file, if there is one. -/
def Surroundings.settingsFile (s : Surroundings) : Except Failure (Option String) :=
  match s.files.read (Path.ofText Settings.filePath) with
  | .ok text => .ok (some text)
  | .error .missing | .error .notDirectory => .ok none
  | .error problem => .error (.settingsFile problem)

/-- The settings of a run, with what the command line replaces. -/
def Surroundings.settings (s : Surroundings) (overrides : Overrides) : Except Failure Settings := do
  let file ← s.settingsFile
  ((Settings.load s.env file s.others).bind overrides.apply).mapError .settings

/-- The levels that exist. -/
def levels : List String :=
  ["CRITICAL", "FATAL", "ERROR", "WARN", "WARNING", "INFO", "DEBUG", "NOTSET"]

/-- The capital form of a character, as far as it is a letter from `A` to `Z`: besides the small
letters from `a` to `z`, the dotless i and the long s have such a form. -/
def capital (c : Char) : Char :=
  if c = '\u0131' then 'I' else if c = '\u017f' then 'S' else c.toUpper

/-- Whether a level is among some. Capital and small letters are alike. -/
def isOneOf (names : List String) (level : String) : Bool :=
  names.contains (String.ofList (level.toList.map capital))

/-- Whether a level exists. -/
def isLevel (name : String) : Bool := isOneOf levels name

/-- Whether what a run reports is logged at a level. -/
def showsReports (level : String) : Bool := isOneOf ["DEBUG", "NOTSET"] level

/-! ## One text -/

/-- The escaped text of a request. The settings limit its length. -/
def TextRequest.result (request : TextRequest) (s : Surroundings) : Except Failure String := do
  let settings ← s.settings ⟨request.maxLength, none⟩
  match settings.exceeds? request.text with
  | some e => throw (.refused e)
  | none => return escapeText (!request.commonOnly) request.text

/-! ## One tree -/

/-- The text of the document of a request. A dash stands for the input. -/
def TreeRequest.document (request : TreeRequest) (s : Surroundings) : Except Failure String := do
  let text ←
    if request.source = "-" then .ok s.input
    else (s.files.read (Path.ofText request.source)).mapError (.unreadable request.source)
  return String.ofList (Text.unifyLineBreaks text.toList)

/-- The greatest number of blanks that there is room for. -/
def widestIndent : Nat := 100000000000

/-- The layout that a request asks for, if there is room for it. An indentation below zero is one of
zero, unless it is beyond all bounds. -/
def TreeRequest.layout (request : TreeRequest) : Except Failure Json.Layout :=
  match request.indent with
  | none => .ok .line
  | some blanks =>
    if (widestIndent : Int) < blanks ∨ blanks < Int64.minValue.toInt then
      .error (.unusableIndent blanks)
    else .ok (.indented blanks.toNat)

/-- Whether the path for the result of a request can be asked for. -/
def TreeRequest.hasAskableTarget (request : TreeRequest) : Bool :=
  !request.target.any (·.contains '\x00')

/-- The settings and the document of a request. -/
def TreeRequest.task (request : TreeRequest) (s : Surroundings) :
    Except Failure (Settings × Data) := do
  if !request.hasAskableTarget then throw .unaskableTarget
  let settings ← s.settings ⟨request.maxLength, if request.verbose then some "DEBUG" else none⟩
  if !isLevel settings.logLevel then throw (.unknownLevel settings.logLevel)
  let text ← request.document s
  return (settings, ← (Json.read text.toList).mapError (.notJson request.source text))

/-- The escaped tree of a request, or none in its place if it cannot be encoded. -/
def TreeRequest.result (request : TreeRequest) (s : Surroundings) :
    Except Failure (Option Json) := do
  let (settings, document) ← request.task s
  (escapeDocument settings document).mapError .refused

/-- What is logged of a request, whether it comes to a result or not. -/
def TreeRequest.log (request : TreeRequest) (s : Surroundings) : List Record :=
  match request.task s with
  | .ok (settings, document) =>
    if showsReports settings.logLevel then reportOfDocument settings document else []
  | .error _ => []

/-- The written result of a request, or none in its place if it cannot be encoded. -/
def TreeRequest.written (request : TreeRequest) (s : Surroundings) :
    Except Failure (Option String) := do
  let tree? ← request.result s
  let layout ← request.layout
  return tree?.map (·.write layout)

/-! ## Outcomes -/

/-- How a run ends. -/
inductive Ending where
  | finished
  /-- The command line was not understood. -/
  | misused
  /-- The command failed, and the failure was reported if it has a wording. -/
  | failed (failure : Failure)
  /-- A note could not be shown, as its markup is an error. -/
  | unshowable

/-- What a run leaves. -/
structure Outcome where
  ending : Ending
  output : String
  /-- What was logged, before the note. -/
  log : List Record
  note : Option String
  files : Files

namespace Outcome

/-- The status that the program ends with. -/
def status (outcome : Outcome) : Nat :=
  match outcome.ending with
  | .finished => 0
  | .failed _ | .unshowable => 1
  | .misused => 2

/-- The outcome of a run that printed something. -/
def printing (output : String) (files : Files) : Outcome := ⟨.finished, output, [], none, files⟩

/-- The outcome of a run that ends with a message behind a mark. -/
def noting (ending : Ending) (mark : Char) (message : String) (files : Files) : Outcome :=
  match note? mark message with
  | some note => ⟨ending, "", [], some note, files⟩
  | none => ⟨.unshowable, "", [], none, files⟩

/-- The outcome of a run that failed. -/
def failing (failure : Failure) (wording : Wording) (files : Files) : Outcome :=
  match failure.message? wording with
  | some message => noting (.failed failure) '✗' message files
  | none => ⟨.failed failure, "", [], none, files⟩

end Outcome

/-- The outcome of a request to escape a text. -/
def TextRequest.run (request : TextRequest) (s : Surroundings) : Outcome :=
  match request.result s with
  | .ok text => .printing (printed text) s.files
  | .error failure => .failing failure s.wording s.files

/-- The outcome of a request to escape a tree, but for its log: the written result is printed, or it
becomes the text of the target. If it cannot be encoded then nothing is printed, and the target
becomes empty. -/
def TreeRequest.deliver (request : TreeRequest) (s : Surroundings) : Outcome :=
  match request.written s, request.target with
  | .error failure, _ => .failing failure s.wording s.files
  | .ok none, none => .failing .unencodable s.wording s.files
  | .ok (some written), none => .printing (printed written) s.files
  | .ok written?, some target =>
    let path := Path.ofText target
    match s.files.write path ((written?.map (· ++ "\n")).getD ""), written? with
    | .error problem, _ => .failing (.unwritable problem) s.wording s.files
    | .ok files, none => .failing .unencodable s.wording files
    | .ok files, some _ => .noting .finished '✓' ("Wrote " ++ path.text) files

/-- The outcome of a request to escape a tree. -/
def TreeRequest.run (request : TreeRequest) (s : Surroundings) : Outcome :=
  { request.deliver s with log := request.log s }

/-- The name and the version of the program. -/
def versionLine : String := "mdescape 0.1.0"

/-- How the program is used. -/
def helpLines : List String := [
  "mdescape - escape literal markdown characters in document trees.",
  "",
  "mdescape text VALUE [--common-only] [--max-length N]",
  "mdescape tree [SOURCE] [-o FILE] [--indent N] [--max-length N] [--verbose]"]

/-- The outcome of an invocation. -/
def Invocation.run (invocation : Invocation) (s : Surroundings) : Outcome :=
  match invocation with
  | .version => .printing (printed versionLine) s.files
  | .help => .printing (printed ("\n".intercalate helpLines)) s.files
  | .text request => request.run s
  | .tree request => request.run s

/-- The outcome of a command line. -/
def run (words : List String) (s : Surroundings) : Outcome :=
  match Invocation.ofWords? words with
  | some invocation => invocation.run s
  | none => ⟨.misused, "", [], none, s.files⟩

end LiteralMarkdown.Command
