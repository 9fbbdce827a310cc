import Templating.Proofs.Text.Occurrence
import Templating.Template.Tokenizer

/-!
# Scanning templates

The scan does one of three things: it takes the whole text as a literal run, it meets an opener
without a closer, or it takes a placeholder off and goes on with what follows. Only strict reading
fails, and always because a template is malformed. Reading without a scan gives what a scan gives.
-/

namespace Templating.Tokenizer

open Template
open Text (cut? byteLength)

variable {tokenizer : Tokenizer} {offset : Nat} {template before inner contents rest : List Char}

theorem opener_ne_nil : opener ≠ [] := List.cons_ne_nil _ _

theorem closer_ne_nil : closer ≠ [] := List.cons_ne_nil _ _

theorem scanFrom_text (bare : cut? opener template = none) :
    tokenizer.scanFrom offset template = .ok (textTokens template) := by
  rw [scanFrom]
  split
  · rfl
  next opened => cases bare.symm.trans opened

theorem scanFrom_unclosed (opened : cut? opener template = some (before, inner))
    (unclosed : cut? closer inner = none) :
    tokenizer.scanFrom offset template =
      if tokenizer.strict then .error (.malformedTemplate (offset + byteLength before) .unclosed)
      else .ok (textTokens template) := by
  rw [scanFrom]
  split
  next bare => cases bare.symm.trans opened
  next _ _ opened' =>
    cases opened.symm.trans opened'
    split
    · rfl
    next closed => cases unclosed.symm.trans closed

theorem scanFrom_placeholder (opened : cut? opener template = some (before, inner))
    (closed : cut? closer inner = some (contents, rest)) :
    tokenizer.scanFrom offset template =
      if tokenizer.strict && (classify tokenizer.keywordBoundary contents).isUndefined then
        .error (.malformedTemplate (offset + byteLength before)
          (.unreadable (classify tokenizer.keywordBoundary contents).raw))
      else
        (tokenizer.scanFrom (offset + byteLength before + byteLength opener +
          byteLength contents + byteLength closer) rest).map fun tokens =>
            textTokens before ++ classify tokenizer.keywordBoundary contents :: tokens := by
  rw [scanFrom]
  split
  next bare => cases bare.symm.trans opened
  next _ _ opened' =>
    cases opened.symm.trans opened'
    split
    next unclosed => cases unclosed.symm.trans closed
    next _ _ closed' =>
      cases closed.symm.trans closed'
      rfl

/-- Text with no opener, or with one that is never closed and may stand, is one literal run. -/
theorem scanFrom_literal (unclosed : ∀ before inner, cut? opener template = some (before, inner) →
    tokenizer.strict = false ∧ cut? closer inner = none) :
    tokenizer.scanFrom offset template = .ok (textTokens template) := by
  cases opened : cut? opener template with
  | none => exact scanFrom_text opened
  | some parts =>
      obtain ⟨before, inner⟩ := parts
      obtain ⟨lenient, absent⟩ := unclosed before inner opened
      rw [scanFrom_unclosed opened absent, lenient]
      rfl

/-- A placeholder that is not refused stands before what the rest gives. -/
theorem scanFrom_readable (opened : cut? opener template = some (before, inner))
    (closed : cut? closer inner = some (contents, rest))
    (readable : (tokenizer.strict &&
      (classify tokenizer.keywordBoundary contents).isUndefined) = false) :
    tokenizer.scanFrom offset template =
      (tokenizer.scanFrom (offset + byteLength before + byteLength opener +
        byteLength contents + byteLength closer) rest).map fun tokens =>
          textTokens before ++ classify tokenizer.keywordBoundary contents :: tokens := by
  rw [scanFrom_placeholder opened closed, readable, if_neg Bool.false_ne_true]

/-- A placeholder that is read stands before what is read from the rest. -/
theorem eq_append_of_scanFrom_placeholder {tokens : List Token}
    (opened : cut? opener template = some (before, inner))
    (closed : cut? closer inner = some (contents, rest))
    (read : tokenizer.scanFrom offset template = .ok tokens) :
    ∃ next later, tokenizer.scanFrom next rest = .ok later ∧
      (tokenizer.strict && (classify tokenizer.keywordBoundary contents).isUndefined) = false ∧
      tokens = textTokens before ++ classify tokenizer.keywordBoundary contents :: later := by
  rw [scanFrom_placeholder opened closed] at read
  split at read
  next => cases read
  next accepted =>
    cases found : tokenizer.scanFrom (offset + byteLength before + byteLength opener +
        byteLength contents + byteLength closer) rest with
    | error error =>
        rw [found] at read
        cases read
    | ok later =>
        rw [found] at read
        cases read
        exact ⟨_, later, found, eq_false_of_ne_true accepted, rfl⟩

/-- A template falls into what stands before its first placeholder, the placeholder and the rest. -/
theorem eq_append_of_placeholder (opened : cut? opener template = some (before, inner))
    (closed : cut? closer inner = some (contents, rest)) :
    template = before ++ (opener ++ contents ++ closer) ++ rest := by
  rw [Text.eq_append_of_cut? opened, Text.eq_append_of_cut? closed]
  simp only [List.append_assoc]

/-- What follows a placeholder is shorter than the template. -/
theorem length_rest_lt (opened : cut? opener template = some (before, inner))
    (closed : cut? closer inner = some (contents, rest)) : rest.length < template.length := by
  have outer := Text.length_of_cut? opened
  have within := Text.length_of_cut? closed
  have two : opener.length = 2 := rfl
  omega

/-- A proof about all scans goes by the three things that a scan does. -/
theorem scan_induction {motive : Nat → List Char → Prop}
    (text : ∀ offset template, cut? opener template = none → motive offset template)
    (unclosed : ∀ offset template before inner, cut? opener template = some (before, inner) →
      cut? closer inner = none → motive offset template)
    (placeholder : ∀ offset template before inner contents rest,
      cut? opener template = some (before, inner) → cut? closer inner = some (contents, rest) →
        (∀ next, motive next rest) → motive offset template)
    (offset : Nat) (template : List Char) : motive offset template := by
  induction size : template.length using Nat.strong_induction_on generalizing offset template with
  | _ size ih =>
      subst size
      cases opened : cut? opener template with
      | none => exact text offset template opened
      | some parts =>
          obtain ⟨before, inner⟩ := parts
          cases closed : cut? closer inner with
          | none => exact unclosed offset template before inner opened closed
          | some parts =>
              obtain ⟨contents, rest⟩ := parts
              refine placeholder offset template before inner contents rest opened closed ?_
              exact fun next => ih rest.length (length_rest_lt opened closed) next rest rfl

/-- A proof about all templates that are read: one without a placeholder is literal text, and any
other is a placeholder between literal text and the rest. -/
theorem read_induction {motive : List Char → List Token → Prop}
    (literal : ∀ template,
      (∀ before inner, cut? opener template = some (before, inner) →
        tokenizer.strict = false ∧ cut? closer inner = none) →
          motive template (textTokens template))
    (placeholder : ∀ template before inner contents rest later,
      cut? opener template = some (before, inner) → cut? closer inner = some (contents, rest) →
        (tokenizer.strict &&
          (classify tokenizer.keywordBoundary contents).isUndefined) = false →
        motive rest later → motive template
          (textTokens before ++ classify tokenizer.keywordBoundary contents :: later))
    {tokens : List Token} (read : tokenizer.scanFrom offset template = .ok tokens) :
    motive template tokens := by
  induction offset, template using scan_induction generalizing tokens with
  | text offset template bare =>
      rw [scanFrom_text bare] at read
      cases read
      exact literal template fun before inner opened => by cases bare.symm.trans opened
  | unclosed offset template before inner opened unclosed =>
      rw [scanFrom_unclosed opened unclosed] at read
      split at read
      next => cases read
      next lenient =>
        cases read
        refine literal template fun before' inner' opened' => ?_
        cases opened.symm.trans opened'
        exact ⟨eq_false_of_ne_true lenient, unclosed⟩
  | placeholder offset template before inner contents rest opened closed ih =>
      obtain ⟨next, later, found, readable, rfl⟩ :=
        eq_append_of_scanFrom_placeholder opened closed read
      exact placeholder template before inner contents rest later opened closed readable
        (ih next found)

theorem strict_of_scanFrom_error {error : TemplateError}
    (failed : tokenizer.scanFrom offset template = .error error) :
    tokenizer.strict = true ∧ ∃ place reason, error = .malformedTemplate place reason := by
  induction offset, template using scan_induction with
  | text offset template bare =>
      rw [scanFrom_text bare] at failed
      cases failed
  | unclosed offset template before inner opened unclosed =>
      rw [scanFrom_unclosed opened unclosed] at failed
      split at failed
      next strict =>
        cases failed
        exact ⟨strict, _, _, rfl⟩
      next => cases failed
  | placeholder offset template before inner contents rest opened closed ih =>
      rw [scanFrom_placeholder opened closed] at failed
      split at failed
      next refused =>
        cases failed
        exact ⟨((Bool.and_eq_true _ _).mp refused).1, _, _, rfl⟩
      next =>
        cases later : tokenizer.scanFrom (offset + byteLength before + byteLength opener +
            byteLength contents + byteLength closer) rest with
        | ok tokens =>
            rw [later] at failed
            cases failed
        | error inside =>
            rw [later] at failed
            cases failed
            exact ih _ later

/-- Reading a template is scanning it, also where a look at the delimiters spares the scan. -/
theorem tokenize_eq_scan (tokenizer : Tokenizer) (template : String) :
    tokenizer.tokenize template = tokenizer.scan template.toList := by
  rw [tokenize]
  split
  next spared =>
    simp only [hasPlaceholders, Bool.and_eq_true, Bool.not_eq_true', Bool.and_eq_false_iff,
      Text.contains_eq_false_iff] at spared
    obtain ⟨lenient, missing⟩ := spared
    refine (scanFrom_literal fun before inner opened => ⟨lenient, ?_⟩).symm
    have whole := Text.eq_append_of_cut? opened
    have hasOpener : opener <:+: template.toList := ⟨before, inner, whole.symm⟩
    have hasInner : inner <:+: template.toList := by
      rw [whole]
      exact (List.suffix_append _ inner).isInfix
    rw [Text.cut?_eq_none_iff]
    intro inside
    rcases missing with noOpener | noCloser
    · exact noOpener hasOpener
    · exact noCloser (inside.trans hasInner)
  next => rfl

/-- A template with one placeholder. -/
theorem tokenize_placeholder {text : String}
    (opened : cut? opener text.toList = some (before, inner))
    (closed : cut? closer inner = some (contents, rest)) (bare : cut? opener rest = none)
    (accepted : (tokenizer.strict && (classify tokenizer.keywordBoundary contents).isUndefined) =
      false) :
    tokenizer.tokenize text = .ok
      (textTokens before ++ classify tokenizer.keywordBoundary contents :: textTokens rest) := by
  rw [tokenize_eq_scan, scan, scanFrom_placeholder opened closed, accepted,
    if_neg Bool.false_ne_true, scanFrom_text bare]
  rfl

/-- A template with one placeholder, by the text before it, its contents and the text after it. -/
theorem tokenize_around {text : String} {token : Token} (before contents rest : List Char)
    (split : text.toList = before ++ opener ++ (contents ++ closer ++ rest))
    (only : ¬ opener <:+: before ++ opener.dropLast ∧
      ¬ closer <:+: contents ++ closer.dropLast ∧ ¬ opener <:+: rest)
    (classified : classify tokenizer.keywordBoundary contents = token)
    (accepted : (tokenizer.strict && token.isUndefined) = false) :
    tokenizer.tokenize text = .ok (textTokens before ++ token :: textTokens rest) := by
  obtain ⟨start, first, bare⟩ := only
  have opened : cut? opener text.toList = some (before, contents ++ closer ++ rest) := by
    rw [split]
    exact Text.cut?_append opener_ne_nil _ start
  have closed : cut? closer (contents ++ closer ++ rest) = some (contents, rest) :=
    Text.cut?_append closer_ne_nil rest first
  subst classified
  exact tokenize_placeholder opened closed (Text.cut?_eq_none_iff.mpr bare) accepted

/-- A template that is nothing but a placeholder. -/
theorem tokenize_single {text : String} {token : Token} (contents : List Char)
    (split : text.toList = opener ++ (contents ++ closer))
    (first : ¬ closer <:+: contents ++ closer.dropLast)
    (classified : classify tokenizer.keywordBoundary contents = token)
    (accepted : (tokenizer.strict && token.isUndefined) = false) :
    tokenizer.tokenize text = .ok [token] := by
  have whole : text.toList = [] ++ opener ++ (contents ++ closer ++ []) := by
    rw [split, List.append_nil, List.nil_append]
  exact tokenize_around [] contents [] whole ⟨by decide, first, by decide⟩ classified accepted

/-- Strict reading refuses a template for its first opener, if that is never closed. -/
theorem tokenize_unclosed {text : String} (before inner : List Char)
    (strict : tokenizer.strict = true) (opened : cut? opener text.toList = some (before, inner))
    (unclosed : cut? closer inner = none) :
    tokenizer.tokenize text = .error (.malformedTemplate (byteLength before) .unclosed) := by
  rw [tokenize_eq_scan, scan, scanFrom_unclosed opened unclosed, if_pos strict, Nat.zero_add]

theorem strict_of_tokenize_error {template : String} {error : TemplateError}
    (failed : tokenizer.tokenize template = .error error) :
    tokenizer.strict = true ∧ ∃ place reason, error = .malformedTemplate place reason :=
  strict_of_scanFrom_error ((tokenize_eq_scan tokenizer template).symm.trans failed)

end Templating.Tokenizer
