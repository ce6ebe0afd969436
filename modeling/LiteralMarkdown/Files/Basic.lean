import LiteralMarkdown.Files.Path

/-!
# Files

The files that a run can see, each with its place and its text. There is a directory wherever there
is something below.
-/

namespace LiteralMarkdown

/-- Files by their places. -/
structure Files where
  entries : List (Place × String)
deriving DecidableEq, Repr

namespace Files

/-- Why a file cannot be read or written. -/
inductive Problem where
  | missing
  | notDirectory
  | isDirectory
  /-- A name on the way, or the path as a whole, is longer than allowed. -/
  | tooLong
  /-- The path holds the character that ends paths, so that there is no asking for it. -/
  | unaskable
deriving DecidableEq, Repr

/-- The wording of a problem with a path, if it is one that is met on the way. -/
def Problem.message? (problem : Problem) (path : Path) : Option String :=
  let wording := match problem with
    | .missing => some "[Errno 2] No such file or directory"
    | .notDirectory => some "[Errno 20] Not a directory"
    | .isDirectory => some "[Errno 21] Is a directory"
    | .tooLong => some "[Errno 36] File name too long"
    | .unaskable => none
  wording.map fun wording => wording ++ ": " ++ Text.quoted path.text

/-- The text of the file at a place. -/
def textAt? (files : Files) (place : Place) : Option String := files.entries.lookup place

/-- Whether there is a directory at a place. The root is one, and so is the directory of the run
with those above it. -/
def isDirectory (files : Files) (place : Place) : Bool :=
  place.names.isEmpty || files.entries.any fun entry => entry.1.isBelow place

/-- Why no path can lead through a place, if none can. -/
def obstacle? (files : Files) (place : Place) : Option Problem :=
  if files.isDirectory place then none
  else if (files.textAt? place).isSome then some .notDirectory
  else some .missing

/-- Why no path can lead through a place to a name in the directory there, if none can. -/
def hindrance? (files : Files) (place : Place) (name : String) : Option Problem :=
  match files.obstacle? place with
  | some problem => some problem
  | none => if Path.nameLimit < name.utf8ByteSize then some .tooLong else none

/-- The place that a path leads to, if there are directories all the way. -/
def locate (files : Files) (path : Path) : Except Problem Place :=
  if path.text.contains '\x00' then .error .unaskable
  else if Path.limit < path.text.utf8ByteSize then .error .tooLong
  else match (path.waypoints.zip path.names).findSome? fun (p, name) => files.hindrance? p name with
    | some problem => .error problem
    | none => .ok path.place

/-- The text of the file at a path. -/
def read (files : Files) (path : Path) : Except Problem String := do
  let place ← files.locate path
  match files.textAt? place with
  | some text => return text
  | none => throw (if files.isDirectory place then .isDirectory else .missing)

/-- The files with the text of one of them set. -/
def put (files : Files) (place : Place) (text : String) : Files where
  entries := files.entries.filter (fun entry => entry.1 != place) ++ [(place, text)]

/-- The files with a directory at a place, seen by an entry without a name in it. -/
def withDirectory (files : Files) (place : Place) : Files := files.put (place.child "") ""

/-- The files after a text has been written to a path. The directory of the path has to be there. -/
def write (files : Files) (path : Path) (text : String) : Except Problem Files := do
  let place ← files.locate path
  if files.isDirectory place then throw .isDirectory else return files.put place text

/-- The names of directories that the root of every system holds. -/
def systemDirectories : List String :=
  ["bin", "boot", "dev", "etc", "home", "lib", "media", "mnt", "opt", "proc", "root", "run", "sbin",
    "srv", "sys", "tmp", "usr", "var"]

/-- The files of every system: there is one that is always empty. -/
def system : Files where
  entries := (⟨true, 0, ["dev", "null"]⟩, "") ::
    systemDirectories.map fun name => ((Place.mk true 0 [name]).child "", "")

/-- The files of a system, and those with the texts of some paths. -/
def ofList (texts : List (String × String)) : Files :=
  texts.foldl (fun files (path, text) => files.put (Path.ofText path).place text) system

end Files

end LiteralMarkdown
