/-!
# Tables of code point ranges

A property of characters that no short rule describes is kept as a table: the closed ranges of the
code points that have it, in ascending order. Membership is decided by halving the table.
-/

namespace LiteralMarkdown.Text

/-- The closed ranges of code points that have some property, in ascending order. -/
abbrev RangeTable := Array (Nat × Nat)

namespace RangeTable

/-- Whether a range of the table from index `low` up to, and without, index `high` holds `code`.
Each step halves the part that is left, so `fuel` steps settle a part shorter than `2 ^ fuel`. -/
def search (table : RangeTable) (code : Nat) : (fuel low high : Nat) → Bool
  | 0, _, _ => false
  | fuel + 1, low, high =>
    if low < high then
      let middle := (low + high) / 2
      match table[middle]? with
      | none => false
      | some (first, last) =>
        if code < first then table.search code fuel low middle
        else if last < code then table.search code fuel (middle + 1) high
        else true
    else false

/-- Whether some range of the table holds the character. -/
def holds (table : RangeTable) (c : Char) : Bool :=
  table.search c.toNat (table.size.log2 + 1) 0 table.size

end RangeTable

end LiteralMarkdown.Text
