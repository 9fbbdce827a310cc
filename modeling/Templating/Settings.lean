import Templating.Template.Tokenizer

/-!
# Engine settings

Four switches, each with a default.
-/

namespace Templating

structure Settings where
  /-- Whether malformed templates are refused. -/
  strictSyntax : Bool := false
  /-- Whether layered resolution adds the current instant to the system variables. -/
  injectNow : Bool := true
  /-- Whether batches look at the cancellation flag. -/
  checkCancellation : Bool := true
  /-- Whether keywords must be whole words. -/
  keywordBoundary : Bool := false
  deriving DecidableEq

def Settings.tokenizer (settings : Settings) : Tokenizer :=
  ⟨settings.strictSyntax, settings.keywordBoundary⟩

end Templating
