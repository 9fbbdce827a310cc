import Mathlib.Data.List.Forall2
import Templating.Proofs.Evaluation.Rendering
import Templating.Proofs.Template.Source

/-!
# The pieces of a template

Lenient reading cuts a template into consecutive pieces, one for each token: literal text is its own
piece, and a placeholder reaches from its opener to its closer, with blanks around the raw text. A
pair of delimiters is never left inside literal text, so a template without a pair is one literal
run and is rendered as it stands.
-/

namespace Templating.Template

open Text (cut? trim isBlank)

/-! ## Pairs of delimiters -/

/-- Somewhere in the text an opener stands, and after it a closer. -/
def Paired (text : List Char) : Prop :=
  ∃ before contents rest, text = before ++ opener ++ contents ++ closer ++ rest

section Pairs

variable {text : List Char}

theorem Paired.infix_opener (paired : Paired text) : opener <:+: text := by
  obtain ⟨before, contents, rest, rfl⟩ := paired
  refine ⟨before, contents ++ closer ++ rest, ?_⟩
  simp only [List.append_assoc]

/-- If any opener has a closer after it, the first one has. -/
theorem not_paired_iff : ¬ Paired text ↔
    ∀ before inner, cut? opener text = some (before, inner) → ¬ closer <:+: inner := by
  constructor
  · rintro unpaired before inner opened ⟨contents, rest, closed⟩
    refine unpaired ⟨before, contents, rest, ?_⟩
    rw [Text.eq_append_of_cut? opened, ← closed]
    simp only [List.append_assoc]
  · rintro unclosed ⟨before, contents, rest, whole⟩
    have split : text = before ++ opener ++ (contents ++ closer ++ rest) := by
      rw [whole]
      simp only [List.append_assoc]
    cases opened : cut? opener text with
    | none => exact Text.cut?_eq_none_iff.mp opened ⟨before, _, split.symm⟩
    | some parts =>
        obtain ⟨front, inner⟩ := parts
        -- The first opener stands no later than that of the pair, so the closer is after both.
        have within : contents ++ closer ++ rest <:+ inner :=
          Text.suffix_of_cut? Tokenizer.opener_ne_nil (split ▸ opened)
        exact unclosed front inner opened (List.IsInfix.trans ⟨contents, rest, rfl⟩ within.isInfix)

end Pairs

/-! ## Pieces -/

/-- The part of a template that a token stands for. -/
inductive Piece : Token → List Char → Prop where
  | text (run : String) : Piece (.text run) run.toList
  | placeholder {token : Token} {front back : List Char} (isPlaceholder : token.isText = false)
      (blankFront : ∀ c ∈ front, isBlank c = true) (blankBack : ∀ c ∈ back, isBlank c = true) :
      Piece token (opener ++ front ++ token.raw.toList ++ back ++ closer)

/-- The template falls into pieces, one for each token in order, and nothing else. -/
def Cuts (tokens : List Token) (template : List Char) : Prop :=
  ∃ pieces, List.Forall₂ Piece tokens pieces ∧ pieces.flatten = template

theorem piece_classify (boundary : Bool) (contents : List Char) :
    Piece (classify boundary contents) (opener ++ contents ++ closer) := by
  obtain ⟨front, back, blankFront, blankBack, around⟩ := Text.exists_blanks_around_trim contents
  have whole : opener ++ contents ++ closer =
      opener ++ front ++ (classify boundary contents).raw.toList ++ back ++ closer := by
    rw [toList_raw_classify]
    conv_lhs => rw [around]
    simp only [List.append_assoc]
  rw [whole]
  exact .placeholder (isText_classify boundary contents) blankFront blankBack

namespace Cuts

variable {token : Token} {tokens : List Token} {piece text rest : List Char}

theorem nil : Cuts [] [] := ⟨[], .nil, rfl⟩

theorem cons (first : Piece token piece) (later : Cuts tokens rest) :
    Cuts (token :: tokens) (piece ++ rest) := by
  obtain ⟨pieces, matched, rfl⟩ := later
  exact ⟨piece :: pieces, .cons first matched, List.flatten_cons⟩

/-- Literal text adds its piece, or nothing if there is none. -/
theorem textTokens_append (text : List Char) (later : Cuts tokens rest) :
    Cuts (textTokens text ++ tokens) (text ++ rest) := by
  by_cases empty : text = []
  · rw [empty, textTokens_nil]
    exact later
  · rw [textTokens_of_ne_nil empty]
    have own := Piece.text (String.ofList text)
    rw [String.toList_ofList] at own
    exact later.cons own

theorem literal (text : List Char) : Cuts (textTokens text) text := by
  have whole := nil.textTokens_append text
  rwa [List.append_nil, List.append_nil] at whole

/-- Reading that does not fail loses nothing. -/
theorem of_scanFrom {tokenizer : Tokenizer} {offset : Nat} {template : List Char}
    (read : tokenizer.scanFrom offset template = .ok tokens) : Cuts tokens template := by
  refine Tokenizer.read_induction (motive := fun template tokens => Cuts tokens template) ?_ ?_ read
  · exact fun template _ => literal template
  · intro template before inner contents rest later opened closed _ ih
    rw [Tokenizer.eq_append_of_placeholder opened closed, List.append_assoc before]
    exact (ih.cons (piece_classify _ contents)).textTokens_append before

end Cuts

/-! ## Literal text between placeholders -/

theorem IsLead.not_infix_opener {run : String} (lead : IsLead run) : ¬ opener <:+: run.toList :=
  Text.contains_eq_false_iff.mp lead.unopened

theorem IsTail.not_paired {run : String} (last : IsTail run) : ¬ Paired run.toList :=
  not_paired_iff.mpr fun before inner opened =>
    Text.contains_eq_false_iff.mp (last.unclosed before inner opened)

/-- Literal text ends the tokens or has a placeholder after it. -/
theorem Canonical.of_text {boundary : Bool} {tokens before after : List Token} {run : String}
    (canonical : Canonical boundary tokens) (place : tokens = before ++ .text run :: after) :
    (after = [] ∧ IsTail run) ∨ (after ≠ [] ∧ IsLead run) := by
  induction canonical generalizing before with
  | nil => exact absurd place.symm (by simp)
  | tail last =>
      cases before with
      | nil =>
          cases place
          exact .inl ⟨rfl, last⟩
      | cons first front => exact absurd (List.cons.inj place).2.symm (by simp)
  | placeholder first later ih =>
      cases before with
      | nil =>
          cases place
          cases first.isText
      | cons other front => exact ih (List.cons.inj place).2
  | text lead first later ih =>
      cases before with
      | nil =>
          cases place
          exact .inr ⟨List.cons_ne_nil _ _, lead⟩
      | cons leading front =>
          have inside := (List.cons.inj place).2
          cases front with
          | nil =>
              cases inside
              cases first.isText
          | cons other front => exact ih (List.cons.inj inside).2

/-- A pair of delimiters is not left inside literal text, and only at the end of a template an
opener is. -/
theorem Canonical.text_unpaired {boundary : Bool} {tokens before after : List Token} {run : String}
    (canonical : Canonical boundary tokens) (place : tokens = before ++ .text run :: after) :
    ¬ Paired run.toList ∧ (after ≠ [] → ¬ opener <:+: run.toList) := by
  rcases canonical.of_text place with ⟨ends, last⟩ | ⟨-, lead⟩
  · exact ⟨last.not_paired, fun goesOn => absurd ends goesOn⟩
  · have bare := lead.not_infix_opener
    exact ⟨fun paired => bare paired.infix_opener, fun _ => bare⟩

end Templating.Template

namespace Templating

open Template

variable {tokenizer : Tokenizer}

theorem Tokenizer.exists_tokenize (lenient : tokenizer.strict = false) (template : String) :
    ∃ tokens, tokenizer.tokenize template = .ok tokens := by
  cases read : tokenizer.tokenize template with
  | ok tokens => exact ⟨tokens, rfl⟩
  | error error => cases lenient.symm.trans (strict_of_tokenize_error read).1

theorem Tokenizer.tokenize_of_not_paired (lenient : tokenizer.strict = false) {template : String}
    (unpaired : ¬ Paired template.toList) :
    tokenizer.tokenize template = .ok (textTokens template.toList) := by
  rw [tokenize_eq_scan]
  refine scanFrom_literal fun before inner opened => ⟨lenient, ?_⟩
  exact Text.cut?_eq_none_iff.mpr (not_paired_iff.mp unpaired before inner opened)

theorem Evaluation.render_textTokens {registry : Registry} {scope : Bindings} (text : String) :
    render registry scope (textTokens text.toList) = .ok text := by
  by_cases empty : text = ""
  · rw [empty]
    rfl
  · rw [textTokens_toList empty, render_singleton]
    rfl

/-- Without a pair of delimiters there is nothing to render. -/
theorem Engine.render_of_not_paired {engine : Engine} (lenient : engine.tokenizer.strict = false)
    {template : String} (unpaired : ¬ Paired template.toList) (scope : Bindings) :
    engine.render scope template = .ok template := by
  rw [render, Tokenizer.tokenize_of_not_paired lenient unpaired]
  dsimp only
  rw [Evaluation.render_textTokens]
  rfl

/-- Lenient reading never fails, and cuts the template into the pieces of its tokens. No literal
text holds a pair of delimiters, and none but the last token holds an opener. A template without a
pair is its own output. -/
theorem Tokenizer.tokenize_pieces (lenient : tokenizer.strict = false) (template : String) :
    ∃ tokens, tokenizer.tokenize template = .ok tokens ∧ Cuts tokens template.toList ∧
      (∀ before run after, tokens = before ++ .text run :: after →
        ¬ Paired run.toList ∧ (after ≠ [] → ¬ opener <:+: run.toList)) ∧
      (¬ Paired template.toList → ∀ engine : Engine, engine.tokenizer = tokenizer →
        ∀ scope, engine.render scope template = .ok template) := by
  obtain ⟨tokens, read⟩ := exists_tokenize lenient template
  have scanned := read
  rw [tokenize_eq_scan] at scanned
  refine ⟨tokens, read, Cuts.of_scanFrom scanned, ?_, ?_⟩
  · intro before run after place
    exact (canonical_of_scanFrom scanned).text_unpaired place
  · rintro unpaired engine rfl scope
    exact engine.render_of_not_paired lenient unpaired scope

/-- An empty placeholder, braces that delimit nothing, a closer before the last opener, and a
template that has its delimiters in that order only. -/
theorem Tokenizer.tokenize_pieces_braces :
    let template := "a\x7b \x7b\x7b b \x7d\x7d\x7b\x7b\x7d\x7d \x7d\x7d\x7b\x7bc"
    let tokens := [.text "a\x7b ", .plain "b", .undefined "", .text " \x7d\x7d\x7b\x7bc"]
    Tokenizer.lenient.tokenize template = .ok tokens ∧ Cuts tokens template.toList ∧
      ¬ Paired " \x7d\x7d\x7b\x7bc".toList ∧
      (⟨.empty, {}, .epoch⟩ : Engine).render .empty " \x7d\x7d\x7b\x7bc" =
        .ok " \x7d\x7d\x7b\x7bc" := by
  intro template tokens
  have openedFirst : Text.cut? opener template.toList = some ("a\x7b ".toList,
      " b \x7d\x7d\x7b\x7b\x7d\x7d \x7d\x7d\x7b\x7bc".toList) := by decide
  have closedFirst : Text.cut? closer " b \x7d\x7d\x7b\x7b\x7d\x7d \x7d\x7d\x7b\x7bc".toList =
      some (" b ".toList, "\x7b\x7b\x7d\x7d \x7d\x7d\x7b\x7bc".toList) := by decide
  have openedSecond : Text.cut? opener "\x7b\x7b\x7d\x7d \x7d\x7d\x7b\x7bc".toList =
      some ([], "\x7d\x7d \x7d\x7d\x7b\x7bc".toList) := by decide
  have closedSecond : Text.cut? closer "\x7d\x7d \x7d\x7d\x7b\x7bc".toList =
      some ([], " \x7d\x7d\x7b\x7bc".toList) := by decide
  have openedTail : Text.cut? opener " \x7d\x7d\x7b\x7bc".toList =
      some (" \x7d\x7d".toList, "c".toList) := by decide
  have unclosed : Text.cut? closer "c".toList = none := by decide
  have read : Tokenizer.lenient.tokenize template = .ok tokens := by
    rw [tokenize_eq_scan, scan, scanFrom_placeholder openedFirst closedFirst,
      scanFrom_placeholder openedSecond closedSecond, scanFrom_unclosed openedTail unclosed]
    rfl
  have lenient : Tokenizer.lenient.strict = false := rfl
  obtain ⟨_, found, cuts, texts, -⟩ := tokenize_pieces lenient template
  cases read.symm.trans found
  have unpaired := (texts [.text "a\x7b ", .plain "b", .undefined ""] _ [] rfl).1
  obtain ⟨_, -, -, -, identity⟩ := tokenize_pieces lenient " \x7d\x7d\x7b\x7bc"
  exact ⟨read, cuts, unpaired, identity unpaired ⟨.empty, {}, .epoch⟩ rfl .empty⟩

end Templating
