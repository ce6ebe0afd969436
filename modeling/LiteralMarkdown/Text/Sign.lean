import LiteralMarkdown.Text.Quoted

/-!
# Signs

Codes in documents can write halves of surrogate pairs, which are no characters. A text that codes
have written is made of signs: characters and such halves. It is a text of characters if there are
no halves in it. Otherwise messages show the code of each half in its place.
-/

namespace LiteralMarkdown.Text

/-- A character, or half a surrogate pair. -/
inductive Sign where
  | char (c : Char)
  | half (code : Nat)
deriving DecidableEq, Repr

namespace Sign

/-- The sign that a code writes. -/
def ofCode (code : Nat) : Sign :=
  if h : code.isValidChar then .char (Char.ofNatAux code h) else .half code

/-- The character that a sign is, unless it is half a pair. -/
def char? : Sign → Option Char
  | .char c => some c
  | .half _ => none

/-- How a message shows a sign. -/
def spelled : Sign → List Char
  | .char c => [c]
  | .half code => '\\' :: 'u' :: hexCode 4 code

/-- How a message shows a sign between quotes of one kind. -/
def quoted (quote : Char) : Sign → List Char
  | .char c => quotedChar quote c
  | .half code => (Sign.half code).spelled

end Sign

/-- The characters that signs are, if there is no half a pair among them. -/
def charsOf? (signs : List Sign) : Option (List Char) := signs.mapM Sign.char?

/-- How a message shows signs. -/
def spelled (signs : List Sign) : String := String.ofList (signs.flatMap Sign.spelled)

/-- How a message shows signs in quotes. -/
def quotedSigns (signs : List Sign) : String :=
  let quote := quoteFor (signs.filterMap Sign.char?)
  String.ofList (quote :: signs.flatMap (Sign.quoted quote) ++ [quote])

end LiteralMarkdown.Text
