import LiteralMarkdown.Decimal.Double

/-!
# Shortest decimals

The shortest decimal of a double is the decimal with the fewest digits that reads back as that
double, and of several the one nearest to it. A finite double is decoded into a whole number of
units of a power of two, together with the interval of numbers that are nearest to it. The grids of
decimals with one digit, two digits and so on are tried in turn: if any point of a grid lies in the
interval, then one of the two neighbours of the double on that grid does.
-/

namespace LiteralMarkdown.Decimal

/-- A positive decimal `digits * 10 ^ exponent`. -/
structure Positive where
  digits : Nat
  exponent : Int
deriving DecidableEq, Repr

/-- A positive number `value * 2 ^ unit`, and the numbers nearest to it among all doubles: those
between `low` and `high` in the same unit, the two ends themselves only if `closed`. -/
structure Neighbourhood where
  value : Nat
  low : Nat
  high : Nat
  unit : Int
  closed : Bool
deriving DecidableEq, Repr

/-- The neighbourhood of a finite double, without its sign. Doubles below a power of two lie half as
far apart as those above it. -/
def Neighbourhood.ofDouble (d : Double) : Neighbourhood :=
  let below := if d.fraction = 0 ∧ 1 < d.exponentField then 1 else 2
  { value := 4 * d.significand
    low := 4 * d.significand - below
    high := 4 * d.significand + 2
    unit := d.power - 2
    closed := d.significand % 2 = 0 }

/-- The factors that bring whole multiples of `10 ^ ten` and of `2 ^ two` to a common unit. -/
def commonUnit (ten two : Int) : Nat × Nat :=
  (Nat.pow 10 ten.toNat * Nat.pow 2 (-two).toNat, Nat.pow 2 two.toNat * Nat.pow 10 (-ten).toNat)

/-- The greatest power of ten that is not above the value. The binary logarithm, times the decimal
logarithm of two, is off by one at most. -/
def Neighbourhood.decade (n : Neighbourhood) : Int :=
  let guess : Int := Int.fdiv ((n.value.log2 + n.unit) * 30103) 100000
  let reaches (ten : Int) : Bool :=
    let (a, b) := commonUnit ten n.unit
    a ≤ n.value * b
  if reaches (guess + 1) then guess + 1 else if reaches guess then guess else guess - 1

/-- The neighbour of the value on the grid of multiples of `10 ^ exponent` that lies in the
neighbourhood, the nearer one if both do and the even one if they are equally near. -/
def Neighbourhood.onGrid? (n : Neighbourhood) (exponent : Int) : Option Positive :=
  let (a, b) := commonUnit exponent n.unit
  let inside (candidate : Nat) : Bool :=
    let x := candidate * a
    if n.closed then n.low * b ≤ x && x ≤ n.high * b else n.low * b < x && x < n.high * b
  let floor := n.value * b / a
  let below := n.value * b - floor * a
  let above := (floor + 1) * a - n.value * b
  match inside floor, inside (floor + 1) with
  | true, true =>
    some ⟨if below < above ∨ (below = above ∧ floor % 2 = 0) then floor else floor + 1, exponent⟩
  | true, false => some ⟨floor, exponent⟩
  | false, true => some ⟨floor + 1, exponent⟩
  | false, false => none

/-- The first grid hit among those with the given numbers of digits; seventeen digits always hit. -/
def Neighbourhood.shortest (n : Neighbourhood) : Positive :=
  let decade := n.decade
  ((List.range 17).findSome? fun more => n.onGrid? (decade - Int.ofNat more)).getD ⟨n.value, n.unit⟩

/-- The decimal without the zeros at the end of its digits. At most `fuel` zeros are dropped. -/
def Positive.trim : (fuel : Nat) → Positive → Positive
  | 0, d => d
  | fuel + 1, d =>
    if d.digits % 10 = 0 ∧ d.digits ≠ 0 then trim fuel ⟨d.digits / 10, d.exponent + 1⟩ else d

/-- The shortest decimal of a finite double that is not zero, without its sign. -/
def Double.shortest (d : Double) : Positive := ((Neighbourhood.ofDouble d).shortest).trim 17

/-! ## Written form -/

/-- Where positional notation begins and ends, by the power of ten of the first digit, and the least
number of digits of a written exponent. -/
structure Style where
  leastPower : Int
  greatestPower : Int
  exponentDigits : Nat
deriving DecidableEq, Repr

/-- A number with at least so many digits, filled up with zeros in front. -/
def padded (width n : Nat) : String :=
  let s := toString n
  "".pushn '0' (width - s.length) ++ s

/-- The written form of a positive decimal. There is always either a point with digits on both
sides of it or an exponent with its sign. -/
def Positive.write (style : Style) (d : Positive) : String :=
  let digits := toString d.digits
  let power : Int := d.exponent + digits.length - 1
  if style.leastPower ≤ power ∧ power ≤ style.greatestPower then
    if 0 ≤ d.exponent then digits ++ "".pushn '0' d.exponent.toNat ++ ".0"
    else if 0 ≤ power then
      let whole := (power + 1).toNat
      String.ofList (digits.toList.take whole) ++ "." ++ String.ofList (digits.toList.drop whole)
    else "0." ++ "".pushn '0' (-power - 1).toNat ++ digits
  else
    let fraction := String.ofList (digits.toList.drop 1)
    String.ofList (digits.toList.take 1) ++ (if fraction.isEmpty then "" else "." ++ fraction) ++
      "e" ++ (if power < 0 then "-" else "+") ++ padded style.exponentDigits power.natAbs

/-- The written form of a finite double, in its shortest decimal. -/
def write (style : Style) (x : Float) : String :=
  let d := Double.ofFloat x
  (if d.negative then "-" else "") ++
    (if d.significand = 0 then "0.0" else d.shortest.write style)

end LiteralMarkdown.Decimal
