import LiteralMarkdown.Data.Shown

/-!
# Schema faults

What a value is refused for, and where: a fault holds the path of names and indices from the value
as a whole to the place of the fault, the kind of the fault and what was found there. Every kind has
a short code and a wording. `Schema.report` words all the faults of something, with hints.
-/

namespace LiteralMarkdown.Schema

/-- A step from a value to a part of it. -/
inductive Step where
  | name (s : String)
  | index (n : Nat)
deriving DecidableEq, Repr

/-- The kinds of faults. -/
inductive FaultKind where
  /-- A required name is absent. -/
  | missing
  /-- A text is required. -/
  | notString
  /-- The bytes do not encode a text. -/
  | notUnicode
  /-- A list is required. -/
  | notList
  /-- A node is required. -/
  | notNode
  /-- The value is nested too deeply to be looked at. -/
  | tooDeep
  /-- A whole number is required. -/
  | notInteger
  /-- The text writes no whole number. -/
  | unreadableInteger
  /-- The number has a fraction. -/
  | fractional
  /-- The number is infinite or no number at all. -/
  | notFinite
  /-- The number is too large to be taken for a whole number. -/
  | oversized
  /-- The number is not above zero. -/
  | notPositive
  /-- The name is unknown. -/
  | unknownName
deriving DecidableEq, Repr

/-- The code of a kind. -/
def FaultKind.code : FaultKind → String
  | .missing => "missing"
  | .notString => "string_type"
  | .notUnicode => "string_unicode"
  | .notList => "list_type"
  | .notNode => "model_type"
  | .tooDeep => "recursion_depth_exceeded"
  | .notInteger => "int_type"
  | .unreadableInteger => "int_parsing"
  | .fractional => "int_from_float"
  | .notFinite => "finite_number"
  | .oversized => "int_parsing_size"
  | .notPositive => "greater_than"
  | .unknownName => "extra_forbidden"

/-- The wording of a kind. -/
def FaultKind.message : FaultKind → String
  | .missing => "Field required"
  | .notString => "Input should be a valid string"
  | .notUnicode => "Input should be a valid string, unable to parse raw data as a unicode string"
  | .notList => "Input should be a valid list"
  | .notNode => "Input should be a valid dictionary or instance of Node"
  | .tooDeep => "Recursion error - maximum validation depth exceeded"
  | .notInteger => "Input should be a valid integer"
  | .unreadableInteger => "Input should be a valid integer, unable to parse string as an integer"
  | .fractional => "Input should be a valid integer, got a number with a fractional part"
  | .notFinite => "Input should be a finite number"
  | .oversized => "Unable to parse input string as an integer, exceeded maximum size"
  | .notPositive => "Input should be greater than 0"
  | .unknownName => "Extra inputs are not permitted"

/-- A fault of a part of a value. What was found is the part itself, or where a name is missing the
value that it is missing from. -/
structure Fault where
  path : List Step
  kind : FaultKind
  found : Data

/-- The same fault, seen from a value that holds the first one at the end of the given steps. -/
def Fault.under (steps : List Step) (fault : Fault) : Fault :=
  { fault with path := steps ++ fault.path }

/-- What is read of a value, or all its faults. -/
abbrev Checked (α : Type) := Except (List Fault) α

namespace Checked

/-- A single fault of a value as a whole. -/
def fail {α : Type} (kind : FaultKind) (found : Data) : Checked α := .error [⟨[], kind, found⟩]

/-- The same outcome, seen from a value that holds the first one at the end of the given steps. -/
def under {α : Type} (steps : List Step) (checked : Checked α) : Checked α :=
  checked.mapError (·.map (·.under steps))

/-- The faults of an outcome. -/
def faults {α : Type} : Checked α → List Fault
  | .ok _ => []
  | .error faults => faults

/-- Both of two outcomes, with the faults of the first before those of the second. -/
def both {α β : Type} (a : Checked α) (b : Checked β) : Checked (α × β) :=
  match a, b with
  | .ok x, .ok y => .ok (x, y)
  | a, b => .error (a.faults ++ b.faults)

/-- What is read of the items of a list, or the faults of all of them in order. -/
def each {α β : Type} (check : α → Checked β) : (index : Nat) → List α → Checked (List β)
  | _, [] => .ok []
  | index, item :: items =>
    (both (under [.index index] (check item)) (each check (index + 1) items)).map
      fun (first, rest) => first :: rest

end Checked

/-! ## Reports -/

/-- The lines that a report adds to a fault of some kind, as where to read about it. -/
abbrev Hints := FaultKind → List String

/-- How a report writes a step. A name with a point in it is set apart. -/
def Step.text : Step → String
  | .name s => if s.contains '.' then "\x60" ++ s ++ "\x60" else s
  | .index n => toString n

/-- The lines of a report that tell a fault: where it is, unless it is the value as a whole, what it
is, and any hints. -/
def Fault.lines (hints : Hints) (fault : Fault) : List String :=
  let place := if fault.path.isEmpty then [] else [".".intercalate (fault.path.map Step.text)]
  place ++ ["  " ++ fault.kind.message ++ " [type=" ++ fault.kind.code ++
    ", input_value=" ++ Data.abridged fault.found.shownInside ++
    ", input_type=" ++ fault.found.kindName ++ "]"] ++ hints fault.kind

/-- The line that announces faults of something: how many there are. -/
def summary (subject : String) (faults : List Fault) : String :=
  toString faults.length ++ " validation error" ++ (if faults.length = 1 then "" else "s") ++
    " for " ++ subject

/-- The report of faults of something. -/
def report (hints : Hints) (subject : String) (faults : List Fault) : String :=
  "\n".intercalate (summary subject faults :: faults.flatMap (Fault.lines hints))

end LiteralMarkdown.Schema
