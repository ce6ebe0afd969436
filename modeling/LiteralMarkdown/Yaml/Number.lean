import LiteralMarkdown.Decimal.Nearest
import LiteralMarkdown.Text.Integer
import LiteralMarkdown.Yaml.Fault

/-!
# Numbers in YAML documents

Whole numbers are written in base two, eight, ten, sixteen or sixty, as their beginning tells, and
doubles in base ten or sixty. Underscores do not count anywhere. A tag can call any text a number,
so more has to be read than what looks like a number by itself.
-/

namespace LiteralMarkdown.Yaml

/-! ## Whole numbers -/

/-- The number whose places in base sixty have the given values, the last one first. -/
def ofSixties : List Int → Int
  | [] => 0
  | place :: places => place + 60 * ofSixties places

/-- The whole number that a text without underscores writes after its first sign. -/
def readMagnitude? (text : List Char) : Option Int :=
  match text with
  | ['0'] => some 0
  | '0' :: 'b' :: digits => Text.readIntegerIn? 2 digits
  | '0' :: 'x' :: digits => Text.readIntegerIn? 16 digits
  | '0' :: _ => Text.readIntegerIn? 8 text
  | _ =>
    if text.contains ':' then
      ((text.splitOn ':').mapM Text.readInteger?).map fun places => ofSixties places.reverse
    else Text.readInteger? text

/-- The whole number that a text writes. -/
def readInt (text : List Char) : Except Unusable Int :=
  match text.filter (· != '_') with
  | [] => .error .emptyNumber
  | text =>
    let (negative, rest) := Text.splitSign text
    if rest.isEmpty then .error .emptyNumber
    else match readMagnitude? rest with
      | some n => .ok (if negative then -n else n)
      | none => .error .number

/-! ## Doubles -/

/-- A decimal with an optional fraction and an optional exponent, without a sign. -/
def readDecimal? (text : List Char) : Option Float :=
  let isDigit (c : Char) : Bool := (Text.digitValue? c).isSome
  let whole := text.takeWhile isDigit
  let (fraction, rest) := match text.drop whole.length with
    | '.' :: rest => (rest.takeWhile isDigit, rest.dropWhile isDigit)
    | rest => ([], rest)
  let exponent? : Option Int := match rest with
    | [] => some 0
    | 'e' :: rest =>
      let (negative, digits) := Text.splitSign rest
      (Text.readDigits? Text.digitValue? 10 digits).map (Text.signed negative)
    | _ => none
  let digits := (whole ++ fraction).filterMap Text.digitValue?
  if digits.isEmpty then none
  else exponent?.map fun e => Decimal.toFloat (Text.ofDigits 10 digits) (e - fraction.length)

/-- The words that stand for doubles. -/
def floatWords : List (String × Float) :=
  [("inf", 1.0 / 0.0), ("infinity", 1.0 / 0.0), ("nan", 0.0 / 0.0)]

/-- A decimal with an optional sign and blanks around it, or a word for a double. -/
def readPlace? (text : List Char) : Option Float :=
  let (negative, rest) := Text.splitSign (Text.trim Text.isSpacing text)
  let magnitude? := match floatWords.lookup (String.ofList rest) with
    | some x => some x
    | none => readDecimal? rest
  magnitude?.map fun x => if negative then -x else x

/-- The double whose places in base sixty have the given values, the last one first. The places are
weighted and added one after the other, and every step is rounded. A place that weighs more than any
double is none, even if its value is zero. -/
def ofFloatSixties : (weight : Nat) → (sum : Float) → List Float → Option Float
  | _, sum, [] => some sum
  | weight, sum, place :: places =>
    let factor := Decimal.toFloat weight 0
    if factor.isInf then none else ofFloatSixties (weight * 60) (sum + place * factor) places

/-- The double that a text writes. Case does not count. -/
def readFloat (text : List Char) : Except Unusable Float :=
  match (text.filter (· != '_')).map Char.toLower with
  | [] => .error .emptyNumber
  | text =>
    let (negative, rest) := Text.splitSign text
    let magnitude : Except Unusable Float :=
      if rest = ".inf".toList then .ok (1.0 / 0.0)
      else if rest = ".nan".toList then .ok (0.0 / 0.0)
      else if rest.contains ':' then
        match (rest.splitOn ':').mapM readPlace? with
        | none => .error .number
        | some places =>
          match ofFloatSixties 1 0.0 places.reverse with
          | none => .error .heavyNumber
          | some x => .ok x
      else match readPlace? rest with
        | none => .error .number
        | some x => .ok x
    magnitude.map fun x => if negative then -x else x

end LiteralMarkdown.Yaml
