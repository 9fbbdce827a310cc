import Templating.Proofs.Template.Scan
import Templating.Proofs.Text.Trimming

/-!
# Tokens and their source

The tokens that reading gives are in canonical form, and the source of tokens in canonical form
reads back as these tokens. So lenient reading gives exactly the canonical token lists, and reading
the source of what was read, leniently or strictly, changes nothing.
-/

namespace Templating.Template

open Text (cut? trim)

/-! ## Canonical form -/

/-- A token read from a placeholder: the class of its own trimmed contents, which hold no closer. -/
structure IsPlaceholder (boundary : Bool) (token : Token) : Prop where
  eq_classify : token = classify boundary token.raw.toList
  trimmed : trim token.raw.toList = token.raw.toList
  unclosed : Text.contains closer token.raw.toList = false

/-- Literal text that a placeholder can follow. -/
structure IsLead (run : String) : Prop where
  nonempty : run ≠ ""
  unopened : Text.contains opener run.toList = false
  getLast?_ne : run.toList.getLast? ≠ some '\x7b'

/-- Literal text that ends a template: its first opener has no closer after it. -/
structure IsTail (run : String) : Prop where
  nonempty : run ≠ ""
  unclosed : ∀ before inner, cut? opener run.toList = some (before, inner) →
    Text.contains closer inner = false

/-- No literal text is empty and no two stand side by side. -/
inductive Canonical (boundary : Bool) : List Token → Prop where
  | nil : Canonical boundary []
  | tail {run : String} (last : IsTail run) : Canonical boundary [.text run]
  | placeholder {token : Token} {rest : List Token} (first : IsPlaceholder boundary token)
      (later : Canonical boundary rest) : Canonical boundary (token :: rest)
  | text {run : String} {token : Token} {rest : List Token} (lead : IsLead run)
      (first : IsPlaceholder boundary token) (later : Canonical boundary rest) :
      Canonical boundary (.text run :: token :: rest)

/-- A token that strict reading can give. -/
def IsStrict : Token → Prop
  | .undefined _ => False
  | .text run => Text.contains opener run.toList = false
  | _ => True

theorem IsStrict.not_isUndefined {token : Token} (kept : IsStrict token) :
    token.isUndefined = false := by
  cases token with
  | undefined raw => exact kept.elim
  | _ => rfl

theorem isStrict_of_not_isUndefined {token : Token} (isPlaceholder : token.isText = false)
    (defined : token.isUndefined = false) : IsStrict token := by
  cases token with
  | text run => cases isPlaceholder
  | undefined raw => cases defined
  | _ => exact True.intro

/-! ## Delimiters across borders -/

section Delimiters

variable {c : Char} {text : List Char}

theorem double_suffix_concat_iff :
    [c, c] <:+ text ++ [c] ↔ text.getLast? = some c := by
  constructor
  · rintro ⟨before, equal⟩
    have pair : before ++ [c] ++ [c] = text ++ [c] := by
      rw [List.append_assoc]
      exact equal
    rw [← List.append_cancel_right pair, List.getLast?_concat]
  · intro last
    obtain ⟨front, rfl⟩ := List.getLast?_eq_some_iff.mp last
    exact ⟨front, (List.append_assoc front [c] [c]).symm⟩

theorem double_infix_concat_iff :
    [c, c] <:+: text ++ [c] ↔ [c, c] <:+: text ∨ text.getLast? = some c := by
  rw [List.infix_concat_iff, double_suffix_concat_iff, or_comm]

/-- No opener begins in literal text that a placeholder follows. -/
theorem IsLead.not_infix {run : String} (lead : IsLead run) :
    ¬ opener <:+: run.toList ++ opener.dropLast := by
  intro early
  rcases double_infix_concat_iff.mp early with inside | last
  · exact Text.contains_eq_false_iff.mp lead.unopened inside
  · exact lead.getLast?_ne last

theorem not_infix_nil : ¬ opener <:+: [] ++ opener.dropLast := by decide

/-- Contents with a blank at either end are closed by the closer that follows them. -/
theorem cut?_closer_padded (unclosed : Text.contains closer text = false) (rest : List Char) :
    cut? closer (' ' :: (text ++ [' ']) ++ closer ++ rest) =
      some (' ' :: (text ++ [' ']), rest) := by
  refine Text.cut?_append Tokenizer.closer_ne_nil rest ?_
  have ends : ∀ front : List Char, ¬ closer <:+ front ++ [' '] := by
    rintro front ⟨before, equal⟩
    have last := congrArg List.getLast? equal
    rw [List.getLast?_concat, List.getLast?_append_of_ne_nil _ Tokenizer.closer_ne_nil] at last
    exact absurd last (by decide)
  intro early
  rcases double_infix_concat_iff.mp early with inside | last
  · rcases List.infix_cons_iff.mp inside with start | inside
    · exact absurd (List.cons_prefix_cons.mp start).1 (by decide)
    · rcases List.infix_concat_iff.mp inside with atEnd | inside
      · exact ends text atEnd
      · exact Text.contains_eq_false_iff.mp unclosed inside
  · rw [← List.cons_append, List.getLast?_concat] at last
    exact absurd last (by decide)

end Delimiters

/-! ## What is read is canonical -/

theorem isText_classify (boundary : Bool) (contents : List Char) :
    (classify boundary contents).isText = false := by
  unfold classify
  dsimp only
  repeat' split
  all_goals rfl

theorem raw_classify (boundary : Bool) (contents : List Char) :
    (classify boundary contents).raw = String.ofList (trim contents) := by
  unfold classify
  dsimp only
  repeat' split
  all_goals rfl

theorem toList_raw_classify (boundary : Bool) (contents : List Char) :
    (classify boundary contents).raw.toList = trim contents := by
  rw [raw_classify, String.toList_ofList]

/-- The class depends on the contents without the blanks around them. -/
theorem classify_eq_of_trim {boundary : Bool} {first second : List Char}
    (same : trim first = trim second) : classify boundary first = classify boundary second := by
  unfold classify
  rw [same]

theorem isPlaceholder_classify (boundary : Bool) {contents : List Char}
    (unclosed : ¬ closer <:+: contents) : IsPlaceholder boundary (classify boundary contents) := by
  have raw := toList_raw_classify boundary contents
  refine ⟨?_, ?_, ?_⟩
  · rw [raw]
    exact classify_eq_of_trim (Text.trim_trim contents).symm
  · rw [raw, Text.trim_trim]
  · rw [raw, Text.contains_eq_false_iff]
    exact fun inside => unclosed (inside.trans (Text.trim_infix contents))

theorem textTokens_nil : textTokens [] = [] := rfl

theorem textTokens_of_ne_nil {text : List Char} (nonempty : text ≠ []) :
    textTokens text = [.text (String.ofList text)] := by
  rw [textTokens, if_neg (by simpa using nonempty)]

theorem textTokens_toList {run : String} (nonempty : run ≠ "") :
    textTokens run.toList = [.text run] := by
  have filled : run.toList ≠ [] := fun empty => nonempty (String.toList_eq_nil_iff.mp empty)
  rw [textTokens_of_ne_nil filled, String.ofList_toList]

theorem canonical_textTokens (boundary : Bool) (text : List Char)
    (unclosed : ∀ before inner, cut? opener text = some (before, inner) →
      Text.contains closer inner = false) : Canonical boundary (textTokens text) := by
  by_cases empty : text = []
  · rw [empty, textTokens_nil]
    exact .nil
  · rw [textTokens_of_ne_nil empty]
    refine .tail ⟨?_, ?_⟩
    · simpa using empty
    · rw [String.toList_ofList]
      exact unclosed

theorem isStrict_textTokens {text : List Char} (bare : ¬ opener <:+: text) :
    ∀ token ∈ textTokens text, IsStrict token := by
  by_cases empty : text = []
  · rw [empty]
    exact fun token member => absurd member List.not_mem_nil
  · rw [textTokens_of_ne_nil empty]
    intro token member
    obtain rfl := List.mem_singleton.mp member
    change Text.contains opener (String.ofList text).toList = false
    rw [String.toList_ofList, Text.contains_eq_false_iff]
    exact bare

theorem canonical_append {boundary : Bool} {text : List Char} {token : Token} {rest : List Token}
    (free : ¬ opener <:+: text ++ opener.dropLast) (first : IsPlaceholder boundary token)
    (later : Canonical boundary rest) : Canonical boundary (textTokens text ++ token :: rest) := by
  by_cases empty : text = []
  · rw [empty, textTokens_nil]
    exact .placeholder first later
  · rw [textTokens_of_ne_nil empty]
    refine .text ⟨?_, ?_, ?_⟩ first later
    · simpa using empty
    · rw [String.toList_ofList, Text.contains_eq_false_iff]
      exact fun inside => free (double_infix_concat_iff.mpr (.inl inside))
    · rw [String.toList_ofList]
      exact fun last => free (double_infix_concat_iff.mpr (.inr last))

/-- Whatever is read from a template is in canonical form. -/
theorem canonical_of_scanFrom {tokenizer : Tokenizer} {offset : Nat} {template : List Char}
    {tokens : List Token} (read : tokenizer.scanFrom offset template = .ok tokens) :
    Canonical tokenizer.keywordBoundary tokens := by
  refine Tokenizer.read_induction (motive := fun _ tokens => Canonical _ tokens) ?_ ?_ read
  · intro template unclosed
    refine canonical_textTokens _ template fun before inner opened => ?_
    rw [Text.contains, (unclosed before inner opened).2]
    rfl
  · intro template before inner contents rest later opened closed _ ih
    have free := Text.not_infix_of_cut? Tokenizer.opener_ne_nil opened
    have unclosed := Text.not_infix_before_of_cut? Tokenizer.closer_ne_nil closed
    exact canonical_append free (isPlaceholder_classify _ unclosed) ih

theorem isStrict_of_scanFrom {tokenizer : Tokenizer} (strict : tokenizer.strict = true)
    {offset : Nat} {template : List Char} {tokens : List Token}
    (read : tokenizer.scanFrom offset template = .ok tokens) :
    ∀ token ∈ tokens, IsStrict token := by
  refine Tokenizer.read_induction (motive := fun _ tokens => ∀ token ∈ tokens, IsStrict token)
    ?_ ?_ read
  · intro template unclosed
    refine isStrict_textTokens (Text.cut?_eq_none_iff.mp ?_)
    cases opened : cut? opener template with
    | none => rfl
    | some parts => cases strict.symm.trans (unclosed parts.1 parts.2 opened).1
  · intro template before inner contents rest later opened closed defined ih
    rw [strict, Bool.true_and] at defined
    have bare := Text.not_infix_before_of_cut? Tokenizer.opener_ne_nil opened
    intro token member
    rcases List.mem_append.mp member with early | here
    · exact isStrict_textTokens bare token early
    · rcases List.mem_cons.mp here with rfl | after
      · exact isStrict_of_not_isUndefined (isText_classify _ _) defined
      · exact ih token after

/-! ## The source of canonical tokens -/

/-- The source of a placeholder keeps a blank between its contents and the delimiters. -/
theorem toList_source {token : Token} (isPlaceholder : token.isText = false) :
    token.source.toList = opener ++ (' ' :: (token.raw.toList ++ [' ']) ++ closer) := by
  cases token with
  | text run => cases isPlaceholder
  | _ => simp [Token.source, List.append_assoc]

theorem IsPlaceholder.isText {boundary : Bool} {token : Token}
    (first : IsPlaceholder boundary token) : token.isText = false :=
  first.eq_classify ▸ isText_classify boundary token.raw.toList

section Reading

variable {tokenizer : Tokenizer}

/-- A placeholder after literal text is read back, together with what follows it. -/
theorem scanFrom_append {text rest : List Char} {token : Token} {tokens : List Token}
    (free : ¬ opener <:+: text ++ opener.dropLast)
    (first : IsPlaceholder tokenizer.keywordBoundary token)
    (kept : tokenizer.strict = true → token.isUndefined = false)
    (later : ∀ offset, tokenizer.scanFrom offset rest = .ok tokens) (offset : Nat) :
    tokenizer.scanFrom offset (text ++ (token.source.toList ++ rest)) =
      .ok (textTokens text ++ token :: tokens) := by
  have whole : text ++ (token.source.toList ++ rest) = text ++ opener ++
      (' ' :: (token.raw.toList ++ [' ']) ++ closer ++ rest) := by
    rw [toList_source first.isText]
    simp only [List.append_assoc]
  have opened := Text.cut?_append Tokenizer.opener_ne_nil
    (' ' :: (token.raw.toList ++ [' ']) ++ closer ++ rest) free
  have closed := cut?_closer_padded first.unclosed rest
  have own : classify tokenizer.keywordBoundary (' ' :: (token.raw.toList ++ [' '])) = token := by
    rw [classify_eq_of_trim (Text.trim_padded (by decide) token.raw.toList)]
    exact first.eq_classify.symm
  have accepted : (tokenizer.strict && token.isUndefined) = false := by
    cases strict : tokenizer.strict with
    | false => rfl
    | true => exact kept strict
  rw [whole, Tokenizer.scanFrom_placeholder opened closed, own, accepted, later]
  rfl

/-- Canonical tokens are read back from their source, by strict reading if it has nothing to
refuse. -/
theorem scanFrom_source {tokens : List Token}
    (canonical : Canonical tokenizer.keywordBoundary tokens)
    (kept : tokenizer.strict = true → ∀ token ∈ tokens, IsStrict token) (offset : Nat) :
    tokenizer.scanFrom offset (tokens.flatMap fun token => token.source.toList) = .ok tokens := by
  induction canonical generalizing offset with
  | nil => exact Tokenizer.scanFrom_text (by decide)
  | @tail run last =>
      have own := textTokens_toList last.nonempty
      change tokenizer.scanFrom offset (run.toList ++ []) = _
      rw [List.append_nil]
      cases opened : cut? opener run.toList with
      | none => rw [Tokenizer.scanFrom_text opened, own]
      | some parts =>
          obtain ⟨before, inner⟩ := parts
          have unclosed := Text.contains_eq_false_iff.mp (last.unclosed before inner opened)
          rw [Tokenizer.scanFrom_unclosed opened (Text.cut?_eq_none_iff.mpr unclosed)]
          split
          next strict =>
            have bare : Text.contains opener run.toList = false :=
              kept strict (.text run) List.mem_cons_self
            rw [Text.contains, opened] at bare
            cases bare
          next => rw [own]
  | @placeholder token rest first later ih =>
      have defined : tokenizer.strict = true → token.isUndefined = false := fun strict =>
        (kept strict token List.mem_cons_self).not_isUndefined
      exact scanFrom_append not_infix_nil first defined
        (ih fun strict other member => kept strict other (List.mem_cons_of_mem _ member)) offset
  | @text run token rest lead first later ih =>
      have defined : tokenizer.strict = true → token.isUndefined = false := fun strict =>
        (kept strict token (List.mem_cons_of_mem _ List.mem_cons_self)).not_isUndefined
      have result := scanFrom_append lead.not_infix first defined
        (ih fun strict other member => kept strict other
          (List.mem_cons_of_mem _ (List.mem_cons_of_mem _ member))) offset
      rw [textTokens_toList lead.nonempty] at result
      exact result

end Reading

theorem toList_join_source (tokens : List Token) :
    (String.join (tokens.map Token.source)).toList =
      tokens.flatMap fun token => token.source.toList := by
  rw [String.toList_join, List.flatMap_map]

theorem tokenize_of_canonical {tokenizer : Tokenizer} {tokens : List Token}
    (canonical : Canonical tokenizer.keywordBoundary tokens)
    (kept : tokenizer.strict = true → ∀ token ∈ tokens, IsStrict token) :
    tokenizer.tokenize (String.join (tokens.map Token.source)) = .ok tokens := by
  rw [Tokenizer.tokenize_eq_scan, toList_join_source]
  exact scanFrom_source canonical kept 0

/-- What is read is canonical, and its source reads back as it. Lenient reading gives a list of
tokens back from its source exactly when the list is canonical. -/
theorem tokenize_join_source (tokenizer : Tokenizer) :
    (∀ template tokens, tokenizer.tokenize template = .ok tokens →
      Canonical tokenizer.keywordBoundary tokens ∧
        tokenizer.tokenize (String.join (tokens.map Token.source)) = .ok tokens) ∧
    (tokenizer.strict = false → ∀ tokens, Canonical tokenizer.keywordBoundary tokens ↔
      tokenizer.tokenize (String.join (tokens.map Token.source)) = .ok tokens) := by
  have canonical : ∀ template tokens, tokenizer.tokenize template = .ok tokens →
      Canonical tokenizer.keywordBoundary tokens := by
    intro template tokens read
    rw [Tokenizer.tokenize_eq_scan] at read
    exact canonical_of_scanFrom read
  constructor
  · intro template tokens read
    have form := canonical template tokens read
    refine ⟨form, tokenize_of_canonical form ?_⟩
    intro strict
    rw [Tokenizer.tokenize_eq_scan] at read
    exact isStrict_of_scanFrom strict read
  · intro lenient tokens
    constructor
    · intro form
      refine tokenize_of_canonical form ?_
      intro strict
      rw [lenient] at strict
      cases strict
    · exact canonical _ tokens

/-- Contents that begin with a brace, a closer in text and an opener that is never closed. -/
theorem tokenize_join_source_braces :
    let tokens := [.text "x\x7b ", .undefined "\x7ba", .text " \x7d\x7d\x7b\x7b b"]
    Tokenizer.lenient.tokenize "x\x7b \x7b\x7b\x7ba\x7d\x7d \x7d\x7d\x7b\x7b b" = .ok tokens ∧
      Canonical false tokens ∧
        Tokenizer.lenient.tokenize (String.join (tokens.map Token.source)) = .ok tokens := by
  intro tokens
  have opened : cut? opener "x\x7b \x7b\x7b\x7ba\x7d\x7d \x7d\x7d\x7b\x7b b".toList =
      some ("x\x7b ".toList, "\x7ba\x7d\x7d \x7d\x7d\x7b\x7b b".toList) := by decide
  have closed : cut? closer "\x7ba\x7d\x7d \x7d\x7d\x7b\x7b b".toList =
      some ("\x7ba".toList, " \x7d\x7d\x7b\x7b b".toList) := by decide
  have openedTail : cut? opener " \x7d\x7d\x7b\x7b b".toList =
      some (" \x7d\x7d".toList, " b".toList) := by decide
  have unclosed : cut? closer " b".toList = none := by decide
  have read : Tokenizer.lenient.tokenize
      "x\x7b \x7b\x7b\x7ba\x7d\x7d \x7d\x7d\x7b\x7b b" = .ok tokens := by
    rw [Tokenizer.tokenize_eq_scan, Tokenizer.scan,
      Tokenizer.scanFrom_placeholder opened closed,
      Tokenizer.scanFrom_unclosed openedTail unclosed]
    rfl
  obtain ⟨both, exactly⟩ := tokenize_join_source Tokenizer.lenient
  have canonical := (both _ tokens read).1
  exact ⟨read, canonical, (exactly rfl tokens).mp canonical⟩

end Templating.Template
