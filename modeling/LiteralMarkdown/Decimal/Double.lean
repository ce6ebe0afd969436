/-!
# Doubles

A double is stored as a sign, an exponent and a fraction. If it is finite it stands for a whole
number of units of a power of two.
-/

namespace LiteralMarkdown.Decimal

/-- The parts of a double as they are stored. -/
structure Double where
  negative : Bool
  exponentField : Nat
  fraction : Nat
deriving DecidableEq, Repr

/-- How many fractions there are: two to the power of 52. -/
def fractionCount : Nat := 4503599627370496

/-- How many exponents there are. -/
def exponentCount : Nat := 2048

namespace Double

/-- The parts of a double. -/
def ofFloat (x : Float) : Double :=
  let bits := x.toBits.toNat
  { negative := fractionCount * exponentCount ≤ bits
    exponentField := bits / fractionCount % exponentCount
    fraction := bits % fractionCount }

/-- The number of units that a finite double stands for. All but the least doubles have a leading
one that is not stored. -/
def significand (d : Double) : Nat :=
  if d.exponentField = 0 then d.fraction else d.fraction + fractionCount

/-- The power of two that is the unit of a finite double. -/
def power (d : Double) : Int := (max d.exponentField 1 : Nat) - 1075

end Double

end LiteralMarkdown.Decimal
