import Mathlib.Data.List.Forall2
import Templating.Proofs.Template.Bare
import Templating.Proofs.Template.Pieces

/-!
# Keywords that end at a blank

A keyword marks a placeholder wherever its raw text begins with it, or only where a blank or nothing
follows. The second way of reading a template differs from the first in exactly the marks whose
keyword runs on into other characters: these take the class that they would have without keywords.
All else stays as it is, so a name that merely begins with a keyword is a variable.
-/

namespace Templating.Template

open Text (trim isBlank)

/-! ## Marks -/

inductive Keyword where
  | ifStart
  | ifEnd
  | elseMark

namespace Keyword

def word : Keyword → List Char
  | ifStart => ['i', 'f']
  | ifEnd => ['/', 'i', 'f']
  | elseMark => ['e', 'l', 's', 'e']

/-- The mark that the keyword makes of a raw text, where `rest` follows the keyword. -/
def mark (raw rest : List Char) : Keyword → Token
  | ifStart => .ifStart (String.ofList raw) (String.ofList (trim rest))
  | ifEnd => .ifEnd (String.ofList raw)
  | elseMark => .elseMark (String.ofList raw)

/-- No keyword begins another one. -/
theorem eq_of_word_isPrefix {first second : Keyword} (begins : first.word <+: second.word) :
    first = second := by
  cases first <;> cases second <;> simp_all [word]

theorem eq_of_isPrefix {first second : Keyword} {text : List Char} (here : first.word <+: text)
    (there : second.word <+: text) : first = second := by
  rcases List.prefix_or_prefix_of_prefix here there with begins | begins
  · exact eq_of_word_isPrefix begins
  · exact (eq_of_word_isPrefix begins).symm

/-- The keyword of a conditional mark. -/
def of? : Token → Option Keyword
  | .ifStart _ _ => some ifStart
  | .ifEnd _ => some ifEnd
  | .elseMark _ => some elseMark
  | _ => none

theorem of?_mark (keyword : Keyword) (raw rest : List Char) :
    of? (keyword.mark raw rest) = some keyword := by
  cases keyword <;> rfl

end Keyword

/-- Whether text begins with a character that is not blank. -/
def startsSolid (text : List Char) : Bool := text.head?.any fun c => !isBlank c

/-- A conditional mark whose keyword is directly followed by a character that is not blank. -/
def IsGlued (token : Token) : Prop :=
  ∃ keyword c rest, Keyword.of? token = some keyword ∧
    token.raw.toList = keyword.word ++ c :: rest ∧ isBlank c = false

section Glued

variable {token : Token} {keyword : Keyword} {rest : List Char}

theorem isGlued_iff (mark : Keyword.of? token = some keyword)
    (start : token.raw.toList = keyword.word ++ rest) :
    IsGlued token ↔ startsSolid rest = true := by
  constructor
  · rintro ⟨other, c, tail, same, split, solid⟩
    cases mark.symm.trans same
    cases List.append_cancel_left (start.symm.trans split)
    simp [startsSolid, solid]
  · intro solid
    cases rest with
    | nil => cases solid
    | cons c tail => exact ⟨keyword, c, tail, mark, start, by simpa [startsSolid] using solid⟩

theorem not_isGlued (plain : Keyword.of? token = none) : ¬ IsGlued token := by
  rintro ⟨keyword, -, -, mark, -, -⟩
  cases plain.symm.trans mark

end Glued

/-! ## Classes -/

/-- The class of a raw text that no keyword marks. -/
def unmarked (raw : List Char) : Token :=
  let text := String.ofList raw
  if Text.contains [' ', '?', ' '] raw && Text.contains [' ', ':', ' '] raw then .shorthandIf text
  else if isVariableName raw then .plain text
  else if raw.contains '|' then .filtered text (readPipeline raw)
  else .undefined text

theorem of?_unmarked (raw : List Char) : Keyword.of? (unmarked raw) = none := by
  unfold unmarked
  dsimp only
  repeat' split
  all_goals rfl

section Classes

variable {boundary : Bool} {word raw rest contents : List Char} {keyword : Keyword}

theorem keyword?_eq_none (away : ¬ word <+: raw) : keyword? boundary word raw = none := by
  rw [keyword?, Text.after?_eq_none_iff.mpr away]

theorem keyword?_append (boundary : Bool) (word rest : List Char) :
    keyword? boundary word (word ++ rest) =
      if boundary && startsSolid rest then none else some (trim rest) := by
  rw [keyword?, Text.after?_append]
  cases boundary with
  | false => rfl
  | true =>
      cases rest with
      | nil => rfl
      | cons c tail => cases blank : isBlank c <;> simp [startsSolid, blank]

theorem classify_eq_unmarked
    (free : ∀ keyword : Keyword, keyword? boundary keyword.word (trim contents) = none) :
    classify boundary contents = unmarked (trim contents) := by
  have opening := free .ifStart
  have closing := free .ifEnd
  have turning := free .elseMark
  simp only [Keyword.word] at opening closing turning
  rw [classify, opening, closing, turning]
  rfl

/-- A keyword at the start decides the class, unless it has to end at a blank and does not. -/
theorem classify_of_keyword (boundary : Bool) (start : trim contents = keyword.word ++ rest) :
    classify boundary contents =
      if boundary && startsSolid rest then unmarked (trim contents)
      else keyword.mark (trim contents) rest := by
  have others : ∀ other : Keyword, other ≠ keyword →
      keyword? boundary other.word (trim contents) = none := fun other different =>
    keyword?_eq_none fun begins =>
      different (Keyword.eq_of_isPrefix begins ⟨rest, start.symm⟩)
  have own := keyword?_append boundary keyword.word rest
  rw [← start] at own
  split at own
  next glued =>
    rw [if_pos glued]
    refine classify_eq_unmarked fun other => ?_
    by_cases same : other = keyword
    · rw [same, own]
    · exact others other same
  next apart =>
    rw [if_neg apart]
    have opening := others .ifStart
    have closing := others .ifEnd
    simp only [Keyword.word] at opening closing
    cases keyword with
    | ifStart =>
        simp only [Keyword.word] at own
        rw [classify, own]
        rfl
    | ifEnd =>
        simp only [Keyword.word] at own
        rw [classify, opening nofun, own]
        rfl
    | elseMark =>
        simp only [Keyword.word] at own
        rw [classify, opening nofun, closing nofun, own]
        rfl

end Classes

/-! ## The two readings -/

/-- What a token becomes when keywords have to end at a blank: it keeps its raw text, and it changes
exactly if its keyword is glued to what follows, and then into no conditional mark. -/
structure Reread (token bounded : Token) : Prop where
  raw_eq : token.raw = bounded.raw
  ne_iff : token ≠ bounded ↔ IsGlued token
  unmarked : IsGlued token → Keyword.of? bounded = none

theorem Reread.of_not_isGlued {token : Token} (apart : ¬ IsGlued token) : Reread token token where
  raw_eq := rfl
  ne_iff := ⟨fun differs => absurd rfl differs, fun glued => absurd glued apart⟩
  unmarked glued := absurd glued apart

theorem reread_classify (contents : List Char) :
    Reread (classify false contents) (classify true contents) := by
  by_cases marked : ∃ keyword : Keyword, keyword.word <+: trim contents
  · obtain ⟨keyword, rest, start⟩ := marked
    have loose := classify_of_keyword false start.symm
    have bounded := classify_of_keyword true start.symm
    rw [Bool.false_and, if_neg Bool.false_ne_true] at loose
    rw [Bool.true_and] at bounded
    have mark : Keyword.of? (classify false contents) = some keyword := by
      rw [loose, Keyword.of?_mark]
    have glued : IsGlued (classify false contents) ↔ startsSolid rest = true :=
      isGlued_iff mark ((toList_raw_classify false contents).trans start.symm)
    cases solid : startsSolid rest with
    | true =>
        rw [solid, if_pos rfl] at bounded
        have plain : Keyword.of? (classify true contents) = none := by
          rw [bounded, of?_unmarked]
        refine ⟨?_, iff_of_true (fun same => ?_) (glued.mpr solid), fun _ => plain⟩
        · rw [raw_classify, raw_classify]
        · rw [same, plain] at mark
          cases mark
    | false =>
        rw [solid, if_neg Bool.false_ne_true, ← loose] at bounded
        rw [bounded]
        refine .of_not_isGlued fun runsOn => ?_
        cases solid.symm.trans (glued.mp runsOn)
  · have free : ∀ boundary, classify boundary contents = unmarked (trim contents) := fun boundary =>
      classify_eq_unmarked fun keyword => keyword?_eq_none fun begins => marked ⟨keyword, begins⟩
    rw [free, free]
    exact .of_not_isGlued (not_isGlued (of?_unmarked _))

theorem forall₂_reread_textTokens (text : List Char) {tokens bounded : List Token}
    (later : List.Forall₂ Reread tokens bounded) :
    List.Forall₂ Reread (textTokens text ++ tokens) (textTokens text ++ bounded) := by
  by_cases empty : text = []
  · rw [empty, textTokens_nil]
    exact later
  · rw [textTokens_of_ne_nil empty]
    exact .cons (.of_not_isGlued (not_isGlued rfl)) later

/-- The scan goes by the delimiters alone, so both readings find the same placeholders. -/
theorem exists_reread_scanFrom (offset : Nat) (template : List Char) :
    ∃ tokens bounded, Tokenizer.scanFrom ⟨false, false⟩ offset template = .ok tokens ∧
      Tokenizer.scanFrom ⟨false, true⟩ offset template = .ok bounded ∧
      List.Forall₂ Reread tokens bounded := by
  have literal : ∀ text, List.Forall₂ Reread (textTokens text) (textTokens text) := fun text => by
    have whole := forall₂_reread_textTokens text .nil
    rwa [List.append_nil] at whole
  induction offset, template using Tokenizer.scan_induction with
  | text offset template bare =>
      exact ⟨_, _, Tokenizer.scanFrom_text bare, Tokenizer.scanFrom_text bare, literal template⟩
  | unclosed offset template before inner opened unclosed =>
      exact ⟨_, _, Tokenizer.scanFrom_unclosed opened unclosed,
        Tokenizer.scanFrom_unclosed opened unclosed, literal template⟩
  | placeholder offset template before inner contents rest opened closed ih =>
      obtain ⟨tokens, bounded, read, reread, alike⟩ := ih (offset + Text.byteLength before +
        Text.byteLength opener + Text.byteLength contents + Text.byteLength closer)
      have together := List.Forall₂.cons (reread_classify contents) alike
      refine ⟨_, _, ?_, ?_, forall₂_reread_textTokens before together⟩
      · rw [Tokenizer.scanFrom_readable opened closed rfl, read]
        rfl
      · rw [Tokenizer.scanFrom_readable opened closed rfl, reread]
        rfl

/-! ## Names -/

/-- Where keywords end at a blank, a name is a variable unless it is a keyword itself. -/
theorem classify_name {name : String} (valid : isVariableName name.toList = true)
    (noIf : name ≠ "if") (noElse : name ≠ "else") :
    classify true (' ' :: (name.toList ++ [' '])) = .plain name := by
  have bare := bare_of_isVariableName valid
  have trimmed : trim (' ' :: (name.toList ++ [' '])) = name.toList := by
    rw [Text.trim_padded (by decide), bare.solid.trim_eq]
  have unblank : ∀ c, Text.contains [' ', c, ' '] name.toList = false := by
    intro c
    rw [Text.contains_eq_false_iff]
    intro inside
    exact absurd (bare.each ' ' (inside.subset List.mem_cons_self)) (by decide)
  have class_eq : unmarked name.toList = .plain name := by
    simp [unmarked, unblank, valid]
  by_cases marked : ∃ keyword : Keyword, keyword.word <+: name.toList
  · obtain ⟨keyword, rest, start⟩ := marked
    have solid : startsSolid rest = true := by
      cases rest with
      | nil =>
          have whole : name = String.ofList keyword.word := by
            rw [← String.ofList_toList (s := name), ← start, List.append_nil]
          cases keyword with
          | ifStart => exact absurd whole noIf
          | ifEnd =>
              rw [whole] at valid
              exact absurd valid (by decide)
          | elseMark => exact absurd whole noElse
      | cons c tail =>
          have member : c ∈ name.toList := by simp [← start]
          simp [startsSolid, isBlank_of_isBareChar (bare.each c member)]
    rw [classify_of_keyword true (trimmed.trans start.symm), solid, trimmed, class_eq]
    rfl
  · have free : ∀ keyword : Keyword, ¬ keyword.word <+: trim (' ' :: (name.toList ++ [' '])) := by
      rw [trimmed]
      exact fun keyword begins => marked ⟨keyword, begins⟩
    rw [classify_eq_unmarked fun keyword => keyword?_eq_none (free keyword), trimmed, class_eq]

theorem tokenize_name {tokenizer : Tokenizer} (bounded : tokenizer.keywordBoundary = true)
    {name : String} (valid : isVariableName name.toList = true) (noIf : name ≠ "if")
    (noElse : name ≠ "else") :
    tokenizer.tokenize ("\x7b\x7b " ++ name ++ " \x7d\x7d") = .ok [.plain name] := by
  have split : ("\x7b\x7b " ++ name ++ " \x7d\x7d").toList =
      opener ++ (' ' :: (name.toList ++ [' ']) ++ closer) := by
    simp [opener, closer]
  have unclosed : Text.contains closer name.toList = false := by
    rw [Text.contains_eq_false_iff]
    intro inside
    have brace := inside.subset (List.mem_cons_self (a := '\x7d'))
    exact absurd ((bare_of_isVariableName valid).each _ brace) (by decide)
  refine Tokenizer.tokenize_single _ split ?_ (bounded ▸ classify_name valid noIf noElse) ?_
  · exact Text.not_infix_of_cut? Tokenizer.closer_ne_nil (cut?_closer_padded unclosed [])
  · exact Bool.and_false _

/-- Lenient reading finds the same placeholders with the same raw texts whether keywords have to end
at a blank or not. If they have to, exactly the marks whose keyword is glued to what follows become
something else, and no conditional mark; every name but the keywords themselves is a variable. -/
theorem tokenize_boundary (template : String) :
    (∃ tokens bounded, Tokenizer.tokenize ⟨false, false⟩ template = .ok tokens ∧
      Tokenizer.tokenize ⟨false, true⟩ template = .ok bounded ∧
      List.Forall₂ Reread tokens bounded) ∧
    ∀ tokenizer : Tokenizer, tokenizer.keywordBoundary = true →
      ∀ name : String, isVariableName name.toList = true → name ≠ "if" → name ≠ "else" →
        tokenizer.tokenize ("\x7b\x7b " ++ name ++ " \x7d\x7d") = .ok [.plain name] := by
  constructor
  · obtain ⟨tokens, bounded, read, reread, alike⟩ := exists_reread_scanFrom 0 template.toList
    refine ⟨tokens, bounded, ?_, ?_, alike⟩
    · rw [Tokenizer.tokenize_eq_scan]
      exact read
    · rw [Tokenizer.tokenize_eq_scan]
      exact reread
  · intro tokenizer bounded name valid noIf noElse
    exact tokenize_name bounded valid noIf noElse

/-- A name that begins with a keyword, a keyword before a wide blank, and strict reading. -/
theorem tokenize_boundary_glued :
    let template := "\x7b\x7biffy\x7d\x7d \x7b\x7belse\u2003x\x7d\x7d"
    let tokens := [.ifStart "iffy" "fy", .text " ", .elseMark "else\u2003x"]
    let bounded := [.plain "iffy", .text " ", .elseMark "else\u2003x"]
    Tokenizer.tokenize ⟨false, false⟩ template = .ok tokens ∧
      Tokenizer.tokenize ⟨false, true⟩ template = .ok bounded ∧
      List.Forall₂ Reread tokens bounded ∧
      isVariableName "elsewhere".toList = true ∧ "elsewhere" ≠ "if" ∧ "elsewhere" ≠ "else" ∧
      Tokenizer.tokenize ⟨true, true⟩ "\x7b\x7b elsewhere \x7d\x7d" = .ok [.plain "elsewhere"] := by
  intro template tokens bounded
  have openedFirst : Text.cut? opener template.toList =
      some ([], "iffy\x7d\x7d \x7b\x7belse\u2003x\x7d\x7d".toList) := by decide
  have closedFirst : Text.cut? closer "iffy\x7d\x7d \x7b\x7belse\u2003x\x7d\x7d".toList =
      some ("iffy".toList, " \x7b\x7belse\u2003x\x7d\x7d".toList) := by decide
  have openedSecond : Text.cut? opener " \x7b\x7belse\u2003x\x7d\x7d".toList =
      some ([' '], "else\u2003x\x7d\x7d".toList) := by decide
  have closedSecond : Text.cut? closer "else\u2003x\x7d\x7d".toList =
      some ("else\u2003x".toList, []) := by decide
  have scanned : ∀ boundary, Tokenizer.tokenize ⟨false, boundary⟩ template = .ok
      [classify boundary "iffy".toList, .text " ", classify boundary "else\u2003x".toList] := by
    intro boundary
    rw [Tokenizer.tokenize_eq_scan, Tokenizer.scan,
      Tokenizer.scanFrom_placeholder openedFirst closedFirst,
      Tokenizer.scanFrom_placeholder openedSecond closedSecond, Tokenizer.scanFrom_text rfl]
    rfl
  have read : Tokenizer.tokenize ⟨false, false⟩ template = .ok tokens := scanned false
  have reread : Tokenizer.tokenize ⟨false, true⟩ template = .ok bounded := scanned true
  obtain ⟨⟨_, _, found, foundAgain, alike⟩, named⟩ := tokenize_boundary template
  cases read.symm.trans found
  cases reread.symm.trans foundAgain
  exact ⟨read, reread, alike, by decide, by decide, by decide,
    named ⟨true, true⟩ rfl "elsewhere" (by decide) (by decide) (by decide)⟩

end Templating.Template
