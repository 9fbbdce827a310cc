import Templating.Text.Blank

/-!
# Text between quotes

A span opens at a quote of either kind and closes at the next one of the same kind that no odd run
of backslashes precedes. Separators count only outside spans.
-/

namespace Templating.Template

/-- Where a scan stands: the quote that is open, and whether an odd run of backslashes has just been
read. -/
structure QuoteState where
  quote : Option Char
  escaped : Bool
  deriving DecidableEq

def QuoteState.start : QuoteState := ⟨none, false⟩

/-- Reads one character; says whether it lies outside all spans and opens none. -/
def QuoteState.step (state : QuoteState) (c : Char) : QuoteState × Bool :=
  let escaped := c == '\\' && !state.escaped
  match state.quote with
  | some mark =>
      if c = mark && !state.escaped then (⟨none, escaped⟩, false)
      else (⟨some mark, escaped⟩, false)
  | none =>
      if c = '"' || c = '\'' then (⟨some c, escaped⟩, false) else (⟨none, escaped⟩, true)

/-- The text before and after the first `target` outside quotes, on a scan in `state`. -/
def cutUnquotedFrom? (target : Char) (state : QuoteState) :
    List Char → Option (List Char × List Char)
  | [] => none
  | c :: rest =>
      let (next, outside) := state.step c
      if outside && c = target then some ([], rest)
      else (cutUnquotedFrom? target next rest).map fun parts => (c :: parts.1, parts.2)

def cutUnquoted? (target : Char) (text : List Char) : Option (List Char × List Char) :=
  cutUnquotedFrom? target .start text

/-- The piece before the first separator outside quotes, on a scan in `state`, and the pieces after
it, all as they stand. -/
def piecesFrom (separator : Char) (state : QuoteState) :
    List Char → List Char × List (List Char)
  | [] => ([], [])
  | c :: rest =>
      let (next, outside) := state.step c
      let (piece, others) := piecesFrom separator next rest
      if outside && c = separator then ([], piece :: others) else (c :: piece, others)

/-- The pieces between the separators outside quotes; there is always one. -/
def pieces (separator : Char) (text : List Char) : List (List Char) :=
  let (piece, others) := piecesFrom separator .start text
  piece :: others

/-- Leaves a blank text at the end out. -/
def dropBlankEnd (texts : List (List Char)) : List (List Char) :=
  if texts.getLast? = some [] then texts.dropLast else texts

/-- The trimmed pieces, without a blank one at the end. -/
def splitUnquoted (separator : Char) (text : List Char) : List (List Char) :=
  dropBlankEnd ((pieces separator text).map Text.trim)

/-- What stands between a quote of the given kind at either end. -/
def betweenQuotes? (quote : Char) : List Char → Option (List Char)
  | [] => none
  | first :: rest =>
      if first = quote && rest.getLast? = some quote then some rest.dropLast else none

/-- Writes an escaped quote as the quote alone. -/
def unescape (quote : Char) : List Char → List Char
  | [] => []
  | [c] => [c]
  | first :: second :: rest =>
      if first = '\\' && second = quote then quote :: unescape quote rest
      else first :: unescape quote (second :: rest)

end Templating.Template
