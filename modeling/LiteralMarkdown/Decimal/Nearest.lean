/-!
# Nearest doubles

The double that a decimal stands for is the one nearest to it. Decimals beyond the greatest double
become infinite and those far below the least one become zero, which is settled by the size of the
decimal before any power of ten is computed.
-/

namespace LiteralMarkdown.Decimal

/-- The double nearest to `digits * 10 ^ exponent`. -/
def toFloat (digits : Nat) (exponent : Int) : Float :=
  let size : Int := (toString digits).length + exponent
  if digits = 0 then 0.0
  else if 400 < size then 1.0 / 0.0
  else if size < -400 then 0.0
  else if 0 ≤ exponent then Float.ofScientific digits false exponent.toNat
  else Float.ofScientific digits true (-exponent).toNat

end LiteralMarkdown.Decimal
