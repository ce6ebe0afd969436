import LiteralMarkdown.Decimal.Double

/-!
# Whole doubles

A finite double is a whole number if its unit is one, or if what its unit is a fraction of divides
the number of units.
-/

namespace LiteralMarkdown.Decimal

/-- The number `significand * 2 ^ power`, if it is a whole one. -/
def wholeMultiple? (significand : Nat) (power : Int) : Option Nat :=
  if 0 ≤ power then some (significand * Nat.pow 2 power.toNat)
  else
    let unit := Nat.pow 2 (-power).toNat
    if significand % unit = 0 then some (significand / unit) else none

/-- The whole number that a finite double is, if it is one. -/
def wholeNumber? (x : Float) : Option Int :=
  let d := Double.ofFloat x
  (wholeMultiple? d.significand d.power).map fun n => if d.negative then -(n : Int) else n

end LiteralMarkdown.Decimal
