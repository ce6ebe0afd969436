import LiteralMarkdown.Command.Run

/-!
# The program

The outer layer: it collects what a run finds, leaves the run itself to `Command.run`, and shows and
writes what the run has left.
-/

namespace LiteralMarkdown.Program

/-- The variable that an entry writes: its name and its text, with an equals sign between them. -/
def variableOf (entry : String) : String × String :=
  let name := entry.toList.takeWhile (· != '=')
  (String.ofList name, String.ofList (entry.toList.drop (name.length + 1)))

/-- The variables in the bytes of an environment, in which every entry ends in a zero. Entries that
are no texts of characters are left out. -/
def variablesIn (bytes : ByteArray) : Environment :=
  (bytes.toList.splitOn 0).filterMap fun entry =>
    if entry.isEmpty then none else (String.fromUTF8? ⟨entry.toArray⟩).map variableOf

/-- The environment. Where its entries cannot be listed, only the variables with names in capital
letters are found. -/
def environment : IO Environment := do
  try
    return variablesIn (← IO.FS.readBinFile "/proc/self/environ")
  catch _ =>
    let names := Settings.Field.all.map fun field => "MDESCAPE_" ++ field.name.toUpper
    names.filterMapM fun name => do
      return (← IO.getEnv name).map fun text => (name, text)

/-- Files together with the one at a path, if there is one. Whatever else than a file stands there
counts as a directory. -/
def withFile (files : Files) (pathText : String) : IO Files := do
  let path := Path.ofText pathText
  let files := path.waypoints.foldl Files.withDirectory files
  try
    return files.put path.place (← IO.FS.readFile path.text)
  catch
    | .noFileOrDirectory .. => return files
    | _ => return files.withDirectory path.place

/-- The rest of a stream. -/
partial def restOf (stream : IO.FS.Stream) (done : String) : IO String := do
  let line ← stream.getLine
  if line.isEmpty then return done else restOf stream (done ++ line)

/-- What the run of an invocation finds. -/
def surroundings (invocation : Option Command.Invocation) : IO Command.Surroundings := do
  let env ← environment
  let wording : Wording := { directory := toString (← IO.currentDir) }
  let files ← withFile ⟨[]⟩ Settings.filePath
  match invocation with
  | some (.tree request) =>
    let files ← if request.source = "-" then pure files else withFile files request.source
    let files ← (request.target.toList).foldlM withFile files
    let input ← if request.source = "-" then restOf (← IO.getStdin) "" else pure ""
    return { env, files, input, wording }
  | _ => return { env, files, input := "", wording }

/-- Writes the target of a run if the run has changed it, however it has ended. -/
def writeTarget (invocation : Option Command.Invocation) (before after : Files) : IO Unit := do
  match invocation with
  | some (.tree { target := some target, .. }) =>
    let path := Path.ofText target
    match after.textAt? path.place with
    | some text =>
      if before.textAt? path.place ≠ some text then IO.FS.writeFile path.text text
    | none => return
  | _ => return

/-- Shows how a run has ended. -/
def report (outcome : Command.Outcome) : IO Unit := do
  for record in outcome.log do
    IO.eprintln ("DEBUG - " ++ record.message)
  IO.print outcome.output
  match outcome.note, outcome.ending with
  | some note, _ => IO.eprintln note
  | none, .finished => return
  | none, .misused => IO.eprintln ("\n".intercalate Command.helpLines)
  | none, .failed _ | none, .unshowable => IO.eprintln "The program ended without a result."

end LiteralMarkdown.Program

open LiteralMarkdown in
/-- Runs the command that the words of the command line ask for. -/
def main (words : List String) : IO UInt32 := do
  let invocation := Command.Invocation.ofWords? words
  let surroundings ← Program.surroundings invocation
  let outcome := Command.run words surroundings
  Program.writeTarget invocation surroundings.files outcome.files
  Program.report outcome
  return outcome.status.toUInt32
