/-!
# JSON values

A JSON value keeps what a document says and the order in which it says it: objects are lists of
named values, whole numbers are exact, and only numbers written with a fraction or an exponent are
doubles.
-/

namespace LiteralMarkdown

/-- A JSON value. -/
inductive Json where
  | null
  | bool (b : Bool)
  | int (n : Int)
  | float (x : Float)
  | string (s : String)
  | list (items : List Json)
  | object (fields : List (String × Json))
deriving Inhabited

namespace Json

/-- The value of a name in a list of named values. -/
def lookup? (name : String) (fields : List (String × Json)) : Option Json := fields.lookup name

/-! ## Sameness -/

mutual

/-- Whether two values are the same, with the same order of names; doubles are compared by their
bits. -/
def same : Json → Json → Bool
  | .null, .null => true
  | .bool a, .bool b => a == b
  | .int a, .int b => a == b
  | .float a, .float b => a.toBits == b.toBits
  | .string a, .string b => a == b
  | .list a, .list b => sameItems a b
  | .object a, .object b => sameFields a b
  | _, _ => false

/-- Whether two lists hold the same values. -/
def sameItems : List Json → List Json → Bool
  | [], [] => true
  | a :: as, b :: bs => a.same b && sameItems as bs
  | _, _ => false

/-- Whether two lists hold the same named values. -/
def sameFields : List (String × Json) → List (String × Json) → Bool
  | [], [] => true
  | (m, a) :: as, (n, b) :: bs => m == n && a.same b && sameFields as bs
  | _, _ => false

end

end Json

end LiteralMarkdown
