/-!
# Line breaks

Texts that come from files and from the input are read with all line breaks alike: a carriage
return, with or without a line feed behind it, counts as a line feed.
-/

namespace LiteralMarkdown.Text

/-- The text with every line break turned into a line feed. -/
def unifyLineBreaks : List Char → List Char
  | [] => []
  | '\r' :: '\n' :: rest => '\n' :: unifyLineBreaks rest
  | '\r' :: rest => '\n' :: unifyLineBreaks rest
  | c :: rest => c :: unifyLineBreaks rest

end LiteralMarkdown.Text
