import LiteralMarkdown.Command.Markup
import LiteralMarkdown.Text.Width

/-!
# What is shown

Results are printed without the sequences that control a terminal. Notes are a mark and a message:
the message is shown with its markup, without controls that would move the position, and with tabs
as blanks.
-/

namespace LiteralMarkdown.Command

open Pattern

/-- A sequence that controls a terminal: an escape, a bracket, numbers and a letter. -/
def controlSequence : Pattern :=
  .sequence [
    .char '\x1b', .char '[',
    .zeroOrMore (.chars ⟨false, [.one ';', .one '?', .span '0' '9']⟩),
    .chars ⟨false, [.span 'a' 'z', .span 'A' 'Z']⟩]

/-- What is printed of a line: all but control sequences, and a line feed behind it. -/
def printed (line : String) : String :=
  String.ofList (controlSequence.replaceAll (fun _ => []) line.toList) ++ "\n"

/-- The text with every tab filled up to the next column that eight divides, given the column of its
first character. -/
def expandTabs : (column : Nat) → List Char → List Char
  | _, [] => []
  | _, '\n' :: rest => '\n' :: expandTabs 0 rest
  | column, '\t' :: rest =>
    let blanks := 8 - column % 8
    List.replicate blanks ' ' ++ expandTabs (column + blanks) rest
  | column, c :: rest => c :: expandTabs (column + Text.width c) rest

/-- The note of a message behind a mark, or none if the markup of the message is wrong. -/
def note? (mark : Char) (message : String) : Option String :=
  (Markup.show? message.toList).map fun shown =>
    String.ofList (expandTabs 0 (mark :: ' ' :: kept shown))

end LiteralMarkdown.Command
