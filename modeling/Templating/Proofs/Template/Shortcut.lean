import Templating.Proofs.Template.Pieces

/-!
# Lenient reading without a scan

Lenient reading scans a template only if it holds both delimiters. A scan of any other template
would give the same: it does not fail, and it leaves a template as one literal run exactly if no
closer stands after an opener, be it that a delimiter is missing or that the closers come first.
-/

namespace Templating

open Template

variable {tokenizer : Tokenizer} {template : String} {tokens : List Token}

namespace Template

variable {text : List Char}

theorem Paired.infix_closer (paired : Paired text) : closer <:+: text := by
  obtain ⟨before, contents, rest, rfl⟩ := paired
  exact ⟨before ++ opener ++ contents, rest, rfl⟩

/-- Delimiters are found wherever there is a pair of them. -/
theorem Paired.hasPlaceholders (paired : Paired text) : hasPlaceholders text = true := by
  rw [Template.hasPlaceholders, Bool.and_eq_true]
  exact ⟨Text.contains_eq_true_iff.mpr paired.infix_opener,
    Text.contains_eq_true_iff.mpr paired.infix_closer⟩

theorem not_paired_nil : ¬ Paired [] := fun paired =>
  Tokenizer.opener_ne_nil (List.infix_nil.mp paired.infix_opener)

end Template

namespace Tokenizer

/-- A scan leaves the template as it stands exactly if there is no pair of delimiters. -/
theorem eq_textTokens_iff (lenient : tokenizer.strict = false)
    (scanned : tokenizer.scan template.toList = .ok tokens) :
    tokens = textTokens template.toList ↔ ¬ Paired template.toList := by
  constructor
  · rintro rfl
    by_cases empty : template.toList = []
    · rw [empty]
      exact not_paired_nil
    · have place : textTokens template.toList = [] ++ .text (String.ofList template.toList) :: [] :=
        textTokens_of_ne_nil empty
      have unpaired := ((canonical_of_scanFrom scanned).text_unpaired place).1
      rwa [String.toList_ofList] at unpaired
  · intro unpaired
    have read := tokenize_of_not_paired lenient unpaired
    rw [tokenize_eq_scan, scanned] at read
    exact Except.ok.inj read

/-- Lenient reading without options never has to fall back on literal text. -/
theorem scan_lenient (template : String) :
    lenient.scan template.toList = .ok (Template.tokens template) := by
  obtain ⟨tokens, read⟩ := exists_tokenize (rfl : lenient.strict = false) template
  rw [tokenize_eq_scan] at read
  rw [Template.tokens, read]

/-- Lenient reading gives what a scan gives, whether the template is scanned or not, and a scan never
fails. It leaves the template as it stands exactly if there is no pair of delimiters, and a template
with a pair is always scanned. Reading without options never falls back on literal text. -/
theorem tokenize_without_scan (lenient : tokenizer.strict = false) (template : String) :
    (∃ tokens, tokenizer.tokenize template = .ok tokens ∧
      tokenizer.scan template.toList = .ok tokens ∧
      (tokens = textTokens template.toList ↔ ¬ Paired template.toList)) ∧
    (Paired template.toList → hasPlaceholders template.toList = true) ∧
    Tokenizer.lenient.tokenize template = .ok (Template.tokens template) ∧
    Tokenizer.lenient.scan template.toList = .ok (Template.tokens template) := by
  obtain ⟨tokens, read⟩ := exists_tokenize lenient template
  have scanned := (tokenize_eq_scan tokenizer template).symm.trans read
  have free := scan_lenient template
  refine ⟨⟨tokens, read, scanned, eq_textTokens_iff lenient scanned⟩, ?_, ?_, free⟩
  · exact fun paired => paired.hasPlaceholders
  · exact (tokenize_eq_scan Tokenizer.lenient template).trans free

/-- Both delimiters, but the closer first. -/
theorem tokenize_without_scan_reversed :
    let tokenizer : Tokenizer := ⟨false, true⟩
    let template := "\x7d\x7d \x7b\x7bif"
    tokenizer.strict = false ∧ hasPlaceholders template.toList = true ∧
      tokenizer.tokenize template = .ok [.text template] ∧
      tokenizer.scan template.toList = .ok [.text template] ∧
      Template.tokens template = [.text template] := by
  intro tokenizer template
  have unpaired : ¬ Paired template.toList := by
    rw [not_paired_iff]
    intro before inner opened
    have first : Text.cut? opener template.toList = some ("\x7d\x7d ".toList, "if".toList) := by
      decide
    cases first.symm.trans opened
    decide
  obtain ⟨⟨tokens, read, scanned, literal⟩, -, free, -⟩ := tokenize_without_scan
    (rfl : tokenizer.strict = false) template
  have whole : textTokens template.toList = [.text template] := textTokens_toList (by decide)
  rw [literal.mpr unpaired, whole] at read scanned
  rw [tokenize_of_not_paired rfl unpaired, whole] at free
  exact ⟨rfl, by decide, read, scanned, (Except.ok.inj free).symm⟩

end Tokenizer

end Templating
