import LiteralMarkdown.Pattern.Basic

/-!
# Written patterns

`Pattern.source` writes a pattern in the usual notation, with parentheses only where the notation
needs them or where the pattern sets a part apart. `Notation` works on written patterns directly:
it joins fragments into one pattern, offers them as alternatives, counts their capturing groups and
tells which flags hold. Both agree: the written form of a choice between scopes is what
`Notation.combine` makes of the written forms.
-/

namespace LiteralMarkdown

namespace Pattern

/-- Whether a quantifier after the written form reaches the whole pattern. -/
def isAtom : Pattern → Bool
  | .chars _ | .group .. | .scope _ | .backref _ => true
  | _ => false

/-- Whether the written form has a bar outside parentheses. -/
def isChoice : Pattern → Bool
  | .alt .. => true
  | _ => false

/-- The sign of a repetition. -/
def quantifier (least : Nat) (greed : Greed) : String :=
  let count := match least with
    | 0 => "*"
    | 1 => "+"
    | n => "\x7b" ++ toString n ++ ",\x7d"
  match greed with
  | .greedy => count
  | .lazy => count ++ "?"

/-- The written form of a pattern. The set of all characters needs the flag `s`, which is put around
a repetition of it. -/
def source : Pattern → String
  | .empty => ""
  | .chars allowed => allowed.source
  | .seq first second => part first first.source ++ part second second.source
  | .alt first second => first.source ++ "|" ++ second.source
  | .group (.number _) body => "(" ++ body.source ++ ")"
  | .group (.name s) body => "(?P<" ++ s ++ ">" ++ body.source ++ ")"
  | .scope body => "(?:" ++ body.source ++ ")"
  | .backref (.number n) => "\\" ++ toString n
  | .backref (.name s) => "(?P=" ++ s ++ ")"
  | .atLeast least greed (.chars ⟨true, []⟩) => "(?s:." ++ quantifier least greed ++ ")"
  | .atLeast least greed body => operand body body.source ++ quantifier least greed
  | .optional body => operand body body.source ++ "?"
  | .notAhead body => "(?!" ++ body.source ++ ")"
  | .wordBoundary => "\\b"
  | .start => "^"
where
  /-- A written pattern as a part of a sequence. -/
  part (p : Pattern) (s : String) : String := if p.isChoice then "(?:" ++ s ++ ")" else s
  /-- A written pattern before a quantifier. -/
  operand (p : Pattern) (s : String) : String := if p.isAtom then s else "(?:" ++ s ++ ")"

end Pattern

/-! ## Written fragments -/

namespace Notation

/-- Fragments one after the other. -/
def join (fragments : List String) : String := String.join fragments

/-- Fragments as alternatives, each set apart from the others. -/
def combine (fragments : List String) : String :=
  "|".intercalate (fragments.map fun s => "(?:" ++ s ++ ")")

/-! ### Flags -/

/-- The flag under which classes hold ASCII characters only. -/
def asciiFlag : Nat := 256

/-- The flag under which classes hold characters of all scripts. -/
def unicodeFlag : Nat := 32

/-- The flag under which blanks and comments may stand between the parts of a pattern. -/
def verboseFlag : Nat := 64

/-- The flag of a letter. -/
def flagOfLetter? : Char → Option Nat
  | 'i' => some 2
  | 'L' => some 4
  | 't' => some 1
  | 'm' => some 8
  | 's' => some 16
  | 'u' => some unicodeFlag
  | 'x' => some verboseFlag
  | 'a' => some asciiFlag
  | _ => none

/-- Whether the character is a blank that may stand between the parts of a pattern. -/
def isGap (c : Char) : Bool := c == ' ' || (0x9 ≤ c.toNat && c.toNat ≤ 0xD)

/-- Where a reader of the beginning of a written pattern stands: between parentheses, behind letters
of given flags in a parenthesis, or inside a comment that ends with a given character. -/
inductive LeadingPlace where
  | between
  | letters (flags : Nat)
  | comment (last : Char)
deriving DecidableEq, Repr

/-- The flags that hold after a written pattern has set some for all of itself: by letters behind a
question mark between parentheses at its very beginning, as often as they come. Comments there do
not count, and blanks do not where they may stand. -/
def leadingFlags (flags : Nat) : LeadingPlace → List Char → Nat
  | _, [] => flags
  | .comment last, c :: rest =>
    leadingFlags flags (if c = last then .between else .comment last) rest
  | .letters set, ')' :: rest => leadingFlags (flags ||| set) .between rest
  | .letters set, c :: rest =>
    match flagOfLetter? c with
    | some flag => leadingFlags flags (.letters (set ||| flag)) rest
    | none => flags
  | .between, '(' :: '?' :: '#' :: rest => leadingFlags flags (.comment ')') rest
  | .between, '(' :: '?' :: rest => leadingFlags flags (.letters 0) rest
  | .between, c :: rest =>
    if flags &&& verboseFlag = 0 then flags
    else if c = '#' then leadingFlags flags (.comment '\n') rest
    else if isGap c then leadingFlags flags .between rest
    else flags

/-- The flags that hold for a written pattern under given flags: classes hold characters of all
scripts unless they are held to ASCII. -/
def effectiveFlags (given : Nat) (source : String) : Nat :=
  let flags := leadingFlags given .between source.toList
  if flags &&& asciiFlag = 0 then flags ||| unicodeFlag else flags

/-! ### Capturing groups -/

/-- Where a reader of a written pattern stands: outside brackets, just after an opening bracket or
the caret behind it, further inside brackets, or inside a comment that ends with a given
character. A closing bracket that comes first in brackets is a plain character. -/
inductive Place where
  | outside
  | bracketsOpened
  | brackets
  | comment (last : Char)
deriving DecidableEq, Repr

/-- Whether comments may stand in a parenthesis, given whether they may stand around it and what
follows its question mark: letters before a colon can set the flag for it, and letters behind a dash
can take it away. -/
def isVerboseInside (verbose : Bool) (rest : List Char) : Bool :=
  let isFlag (c : Char) : Bool := (flagOfLetter? c).isSome
  let set := rest.takeWhile isFlag
  match rest.dropWhile isFlag with
  | ':' :: _ => verbose || set.contains 'x'
  | '-' :: rest => (verbose || set.contains 'x') && !(rest.takeWhile isFlag).contains 'x'
  | _ => verbose

/-- The number of capturing groups that open in the rest of a written pattern. A parenthesis opens
one if it is not escaped, not in brackets and not in a comment, and if no question mark follows it
or the name of a group does. The condition of a choice between two patterns has parentheses of its
own, which open none. For all parentheses that are open, the innermost first, and for the pattern as
a whole it is given whether comments may stand there. -/
def groupsFrom (verbose : Bool) (around : List Bool) : Place → List Char → Nat
  | _, [] => 0
  | .comment last, c :: rest =>
    groupsFrom verbose around (if c = last then .outside else .comment last) rest
  | .outside, '\\' :: _ :: rest => groupsFrom verbose around .outside rest
  | .outside, '[' :: '^' :: rest => groupsFrom verbose around .bracketsOpened rest
  | .outside, '[' :: rest => groupsFrom verbose around .bracketsOpened rest
  | .outside, '(' :: '?' :: '#' :: rest => groupsFrom verbose around (.comment ')') rest
  | .outside, '(' :: '?' :: '(' :: rest =>
    groupsFrom verbose (verbose :: verbose :: around) .outside rest
  | .outside, '(' :: '?' :: 'P' :: '<' :: rest =>
    groupsFrom verbose (verbose :: around) .outside rest + 1
  | .outside, '(' :: '?' :: rest =>
    groupsFrom (isVerboseInside verbose rest) (verbose :: around) .outside rest
  | .outside, '(' :: rest => groupsFrom verbose (verbose :: around) .outside rest + 1
  | .outside, ')' :: rest => groupsFrom (around.headD verbose) around.tail .outside rest
  | .outside, c :: rest =>
    groupsFrom verbose around (if verbose ∧ c = '#' then .comment '\n' else .outside) rest
  | .bracketsOpened, '\\' :: _ :: rest => groupsFrom verbose around .brackets rest
  | .bracketsOpened, _ :: rest => groupsFrom verbose around .brackets rest
  | .brackets, '\\' :: _ :: rest => groupsFrom verbose around .brackets rest
  | .brackets, ']' :: rest => groupsFrom verbose around .outside rest
  | .brackets, _ :: rest => groupsFrom verbose around .brackets rest

/-- The number of capturing groups of a written pattern under given flags. -/
def groups (flags : Nat) (source : String) : Nat :=
  groupsFrom (effectiveFlags flags source &&& verboseFlag != 0) [] .outside source.toList

end Notation

end LiteralMarkdown
