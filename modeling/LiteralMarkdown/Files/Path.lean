import LiteralMarkdown.Text.Quoted

/-!
# Paths and places

A path is a list of names, from the directory of a run or from the root of all directories. Empty
names and single dots in its text say nothing and are left out; double dots are kept, because what
they mean depends on the directories on the way. A place is where a path leads to once all of these
are there.
-/

namespace LiteralMarkdown

/-- A path to a file or a directory: the slashes that it begins with, and its names. -/
structure Path where
  root : String
  names : List String
deriving DecidableEq, Repr

/-- A place among directories: whether it is told from the root or from the directory of the run,
how many levels above that it begins, and the names from there on. -/
structure Place where
  rooted : Bool
  up : Nat
  names : List String
deriving DecidableEq, Repr

namespace Place

/-- The place of a name in the directory at a place. -/
def child (place : Place) (name : String) : Place :=
  { place with names := place.names ++ [name] }

/-- The directory that holds a place. The root holds itself. -/
def parent (place : Place) : Place :=
  if !place.names.isEmpty then { place with names := place.names.dropLast }
  else if place.rooted then place
  else { place with up := place.up + 1 }

/-- Where a name leads to from a place. -/
def step (place : Place) (name : String) : Place :=
  if name = ".." then place.parent else place.child name

/-- Whether a place lies below another one. -/
def isBelow (place above : Place) : Bool :=
  place.rooted = above.rooted ∧ place.up = above.up ∧
    above.names.isPrefixOf place.names ∧ above.names.length < place.names.length

end Place

namespace Path

/-- The greatest number of bytes in a name. -/
def nameLimit : Nat := 255

/-- The greatest number of bytes in the text of a path. -/
def limit : Nat := 4095

/-- The root of a text: none without a slash in front, two slashes if there are exactly two, and one
otherwise. -/
def rootOf (text : List Char) : String :=
  match (text.takeWhile (· == '/')).length with
  | 0 => ""
  | 2 => "//"
  | _ => "/"

/-- The path that a text writes. -/
def ofText (text : String) : Path where
  root := rootOf text.toList
  names := ((text.toList.splitOn '/').map String.ofList).filter fun name =>
    name != "" && name != "."

/-- The written form of a path. -/
def text (path : Path) : String :=
  if path.root = "" ∧ path.names = [] then "." else path.root ++ "/".intercalate path.names

/-- The path that another one leads to from a path, given that the other one has no root. -/
def join (path other : Path) : Path := { path with names := path.names ++ other.names }

/-- Where the first `count` names of a path lead to. -/
def placeAfter (path : Path) (count : Nat) : Place :=
  (path.names.take count).foldl Place.step ⟨path.root != "", 0, []⟩

/-- Where a path leads to. -/
def place (path : Path) : Place := path.placeAfter path.names.length

/-- The places that a path leads through. -/
def waypoints (path : Path) : List Place := (List.range path.names.length).map path.placeAfter

end Path

end LiteralMarkdown
