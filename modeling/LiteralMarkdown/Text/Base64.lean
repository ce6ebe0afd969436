/-!
# Bytes written in base 64

Four letters write three bytes. Characters that are no letters are passed over, and the last group
may be filled up with equals signs, after which nothing is read.
-/

namespace LiteralMarkdown.Text

/-- The value of a letter. -/
def base64Value? (c : Char) : Option Nat :=
  if 'A' ≤ c ∧ c ≤ 'Z' then some (c.toNat - 'A'.toNat)
  else if 'a' ≤ c ∧ c ≤ 'z' then some (c.toNat - 'a'.toNat + 26)
  else if '0' ≤ c ∧ c ≤ '9' then some (c.toNat - '0'.toNat + 52)
  else if c = '+' then some 62
  else if c = '/' then some 63
  else none

/-- Why a text does not write bytes. -/
inductive Base64Error where
  /-- The last group is a single letter, after so many whole groups. -/
  | loneLetter (groups : Nat)
  /-- The last group is not filled up. -/
  | padding
deriving DecidableEq, Repr

/-- The wording of an error. -/
def Base64Error.message : Base64Error → String
  | .loneLetter groups =>
    "Invalid base64-encoded string: number of data characters (" ++ toString (groups * 4 + 1) ++
      ") cannot be 1 more than a multiple of 4"
  | .padding => "Incorrect padding"

/-- The bytes of a text, given the number of whole groups before it, the letters of the group so
far, the last one first, and the number of equals signs in it. -/
def base64From : List Char → (groups : Nat) → (group : List Nat) → (fill : Nat) →
    Except Base64Error (List UInt8)
  | [], groups, group, _ =>
    match group with
    | [] => .ok []
    | [_] => .error (.loneLetter groups)
    | _ => .error .padding
  | c :: rest, groups, group, fill =>
    if c = '=' then
      match group with
      | [b, a] =>
        if 1 ≤ fill then .ok [UInt8.ofNat (a * 4 + b / 16)]
        else base64From rest groups group (fill + 1)
      | [d, b, a] =>
        .ok [UInt8.ofNat (a * 4 + b / 16), UInt8.ofNat (b % 16 * 16 + d / 4)]
      | _ => base64From rest groups group fill
    else match base64Value? c with
      | none => base64From rest groups group fill
      | some v =>
        match group with
        | [d, b, a] =>
          (base64From rest (groups + 1) [] 0).map fun more =>
            UInt8.ofNat (a * 4 + b / 16) :: UInt8.ofNat (b % 16 * 16 + d / 4) ::
              UInt8.ofNat (d % 4 * 64 + v) :: more
        | _ => base64From rest groups (v :: group) 0

/-- The bytes that a text writes. -/
def readBase64 (s : List Char) : Except Base64Error (List UInt8) := base64From s 0 [] 0

end LiteralMarkdown.Text
