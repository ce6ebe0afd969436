import LiteralMarkdown.Tree.Report

/-!
# Documents

A document is plain data, and there can be texts in it that are no texts of characters. Without such
texts it is a JSON value, and that is escaped as a tree. With such texts it is checked and walked
through in the same way; but what comes of it cannot be written, so that all there is to tell is why
it is refused, if it is. Types and changes are then told as messages show them.
-/

namespace LiteralMarkdown

open Schema

/-- What a run looks at in a node of a document. -/
structure Sketch where
  type : Data
  value : Data
  children : List Sketch

namespace Sketch

/-! ## The schema -/

/-- The type that a mapping gives. It need not be a text of characters. -/
def checkType (pairs : List (Data × Data)) : Checked Data :=
  match Data.valueOf? "type" pairs with
  | none => Checked.under [.name "type"] (Checked.fail .missing (.map pairs))
  | some (.text s) => .ok (.text s)
  | some (.brokenText signs) => .ok (.brokenText signs)
  | some other => Checked.under [.name "type"] (Checked.fail .notString other)

/-- The children that a mapping gives, each checked on its own. -/
def checkChildren (check : Data → Checked Sketch) (pairs : List (Data × Data)) :
    Checked (List Sketch) :=
  match Data.valueOf? "children" pairs with
  | none | some .null => .ok []
  | some (.list items) => Checked.under [.name "children"] (Checked.each check 0 items)
  | some other => Checked.under [.name "children"] (Checked.fail .notList other)

/-- The node that data stand for, with so many levels left. A name that is no text of characters
hides all other faults of its mapping. -/
def check : (levels : Nat) → Data → Checked Sketch
  | 0, tree => Checked.fail .tooDeep tree
  | levels + 1, .map pairs =>
    match Data.brokenKey? pairs with
    | some key => Checked.fail .notUnicode key
    | none =>
      (Checked.both (checkType pairs) (checkChildren (check levels) pairs)).map
        fun (type, children) =>
          { type, value := (Data.valueOf? "value" pairs).getD .null, children }
  | _ + 1, other => Checked.fail .notNode other

/-- The root of the tree that a document stands for. -/
def ofDocument (document : Data) : Except TreeError Sketch :=
  match document with
  | .map pairs =>
    let type := (Data.valueOf? "type" pairs).getD .null
    (check Node.levels document).mapError
      (.malformed (if type.isWhole then Json.ofData type else .string type.shown))
  | document => .error (.notObject (Json.ofData document))

/-! ## The walk -/

/-- A text-bearing node that a run comes to. -/
structure Stop where
  first : Bool
  type : Data
  value : Data

/-- Why a text-bearing node is refused, if it is. -/
def Stop.refusal? (settings : Settings) (stop : Stop) : Option TreeError :=
  match stop.value with
  | .text s => settings.exceeds? s
  | .brokenText signs => settings.refusesLength? signs.length
  | value => some (.valueNotText stop.type.shown (Json.ofData value))

/-- What is reported of a text-bearing node. -/
def Stop.changes (stop : Stop) : List Change :=
  let before := stop.value.shown
  let after := escapeText stop.first before
  if after = before then [] else [⟨stop.type.shown, before, after⟩]

mutual

/-- The text-bearing nodes that a run comes to, children before their parent. -/
def stops (settings : Settings) (first : Bool) : Sketch → List Stop
  | ⟨type, value, children⟩ =>
    if type.shown ∈ settings.passthroughTypes then []
    else stopsOf settings true children ++
      if type.shown ∈ settings.textTypes then [⟨first, type, value⟩] else []

/-- The text-bearing nodes among nodes that follow one another, and below them. -/
def stopsOf (settings : Settings) (first : Bool) : List Sketch → List Stop
  | [] => []
  | node :: nodes => node.stops settings first ++ stopsOf settings false nodes

end

/-- Why a tree is refused, if it is: the first refusal on the way counts. -/
def refusal? (settings : Settings) (root : Sketch) : Option TreeError :=
  (root.stops settings false).findSome? (Stop.refusal? settings)

/-- What a run over a tree reports up to the first refusal. -/
def report (settings : Settings) (root : Sketch) : List Record :=
  let passed := (root.stops settings false).takeWhile fun stop => (stop.refusal? settings).isNone
  .entered root.type.shown :: (passed.flatMap Stop.changes).map .changed

/-- A walk through a document: why it is refused, or else what is reported of it. -/
def walk (settings : Settings) (document : Data) : Except TreeError (List Record) :=
  (ofDocument document).bind fun root =>
    match root.refusal? settings with
    | some e => .error e
    | none => .ok (root.report settings)

end Sketch

/-! ## Documents -/

/-- The escaped tree of a document, or none in its place if the document has texts in it that are no
texts of characters. -/
def escapeDocument (settings : Settings) (document : Data) : Except TreeError (Option Json) :=
  if document.isWhole then
    (escapeTree settings (Json.ofData document)).map fun (escaped, _) => some escaped
  else (Sketch.walk settings document).map fun _ => none

/-- What a run over a document reports. -/
def reportOfDocument (settings : Settings) (document : Data) : List Record :=
  if document.isWhole then reportOf settings (Json.ofData document)
  else match Sketch.ofDocument document with
    | .ok root => root.report settings
    | .error _ => []

end LiteralMarkdown
