import LiteralMarkdown.Main
import LiteralMarkdown.Proofs.Command.Agreement
import LiteralMarkdown.Proofs.Command.Stages
import LiteralMarkdown.Proofs.Marking.Pairing
import LiteralMarkdown.Proofs.Remains.Brackets
import LiteralMarkdown.Proofs.Remains.Pairs
import LiteralMarkdown.Proofs.Remains.Underscores
import LiteralMarkdown.Proofs.Tree.Outcome
import LiteralMarkdown.Proofs.Tree.Rewriting
import LiteralMarkdown.Proofs.Twice
import LiteralMarkdown.Proofs.Marking.Parity
import LiteralMarkdown.Proofs.Settings.Precedence
import LiteralMarkdown.Proofs.Settings.Reporting
import LiteralMarkdown.Proofs.Marking.Coupling
import LiteralMarkdown.Proofs.Protection.Grammar
import LiteralMarkdown.Proofs.Leading.Blanks
import LiteralMarkdown.Proofs.Leading.FirstText
import LiteralMarkdown.Proofs.Segments.Division
import LiteralMarkdown.Proofs.Tree.Tidy
import LiteralMarkdown.Proofs.Tree.Passes
import LiteralMarkdown.Proofs.Tree.RoundTrip
import LiteralMarkdown.Proofs.Tree.Changes
import LiteralMarkdown.Proofs.Settings.Merging
import LiteralMarkdown.Proofs.Tree.Blame
import LiteralMarkdown.Proofs.Command.Verbatim
import LiteralMarkdown.Proofs.Delimiters.Places
