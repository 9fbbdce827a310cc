import Templating.Proofs.Evaluation.Rendering
import Templating.Proofs.Template.Pieces
import Templating.Proofs.Template.Strict

/-!
# Templates one after the other

A template with no opener left in its literal text can be followed by any other, if no opener begins
in the one and ends in the other. The scan of both then goes through the first and goes on with the
second as if it stood alone, so that the tokens, the place of a refusal and the output of the whole
come from those of the parts. Only literal text at the border grows into one run.
-/

namespace Templating.Template

open Text (cut? byteLength)

/-- Tokens one after the other, with literal text on both sides of the border in one run. -/
def joinTokens : List Token → List Token → List Token
  | [], back => back
  | [.text run], .text more :: back => .text (run ++ more) :: back
  | token :: front, back => token :: joinTokens front back

section Joining

variable {token : Token}

theorem joinTokens_cons (isPlaceholder : token.isText = false) (tokens later : List Token) :
    joinTokens (token :: tokens) later = token :: joinTokens tokens later := by
  cases token with
  | text run => cases isPlaceholder
  | _ => rfl

/-- Literal text before a placeholder is not at the border. -/
theorem joinTokens_textTokens_cons (text : List Char) (isPlaceholder : token.isText = false)
    (tokens later : List Token) :
    joinTokens (textTokens text ++ token :: tokens) later =
      textTokens text ++ token :: joinTokens tokens later := by
  by_cases empty : text = []
  · rw [empty, textTokens_nil]
    exact joinTokens_cons isPlaceholder tokens later
  · rw [textTokens_of_ne_nil empty]
    change _ :: joinTokens (token :: tokens) later = _
    rw [joinTokens_cons isPlaceholder]
    rfl

/-- Literal text at the border is one run. -/
theorem joinTokens_textTokens (text more : List Char) (later : List Token)
    (rest : ∀ token ∈ later.head?, token.isText = false) :
    joinTokens (textTokens text) (textTokens more ++ later) =
      textTokens (text ++ more) ++ later := by
  by_cases empty : text = []
  · rw [empty, textTokens_nil]
    rfl
  · rw [textTokens_of_ne_nil empty,
      textTokens_of_ne_nil (List.append_ne_nil_of_left_ne_nil empty more)]
    by_cases none : more = []
    · rw [none, textTokens_nil, List.append_nil]
      cases later with
      | nil => rfl
      | cons token later =>
          have isPlaceholder := rest token rfl
          cases token with
          | text run => cases isPlaceholder
          | _ => rfl
    · rw [textTokens_of_ne_nil none, String.ofList_append]
      rfl

end Joining

section Scanning

variable {tokenizer : Tokenizer} {front back : List Char} {tokens : List Token}

/-- No opener begins in the first text and ends in the second. -/
def Apart (front back : List Char) : Prop :=
  ¬ (front.getLast? = some '\x7b' ∧ back.head? = some '\x7b')

/-- The first opener is found after text that neither holds one nor begins it. -/
theorem cut?_opener_of_apart (bare : ¬ opener <:+: front) (apart : Apart front back) :
    cut? opener (front ++ back) =
      (cut? opener back).map fun parts => (front ++ parts.1, parts.2) := by
  induction front with
  | nil => simp
  | cons c front ih =>
      have away : Text.after? opener (c :: (front ++ back)) = none := by
        rw [Text.after?_eq_none_iff]
        intro start
        obtain ⟨rfl, second⟩ := List.cons_prefix_cons.mp start
        cases front with
        | nil =>
            obtain ⟨rest, rfl⟩ := second
            exact apart ⟨rfl, rfl⟩
        | cons d front =>
            obtain ⟨rfl, -⟩ := List.cons_prefix_cons.mp second
            exact bare ⟨[], front, rfl⟩
      have bareRest : ¬ opener <:+: front := fun inside => bare (List.infix_cons inside)
      have apartRest : Apart front back := by
        rintro ⟨last, first⟩
        refine apart ⟨?_, first⟩
        rw [List.getLast?_cons, last]
        rfl
      rw [List.cons_append, Text.cut?, away, ih bareRest apartRest]
      cases cut? opener back <;> rfl

/-- A refusal is as far behind the start of the scan wherever that is. -/
theorem scanFrom_error_at (distance : Nat) {offset place : Nat} {reason : Malformed}
    {template : List Char}
    (failed : tokenizer.scanFrom offset template = .error (.malformedTemplate place reason)) :
    tokenizer.scanFrom (distance + offset) template =
      .error (.malformedTemplate (distance + place) reason) := by
  induction offset, template using Tokenizer.scan_induction with
  | text offset template bare =>
      rw [Tokenizer.scanFrom_text bare] at failed
      cases failed
  | unclosed offset template before inner opened unclosed =>
      rw [Tokenizer.scanFrom_unclosed opened unclosed] at failed ⊢
      split at failed
      next strict =>
        cases failed
        rw [if_pos strict, Nat.add_assoc]
      next => cases failed
  | placeholder offset template before inner contents rest opened closed ih =>
      rw [Tokenizer.scanFrom_placeholder opened closed] at failed ⊢
      split at failed
      next refused =>
        cases failed
        rw [if_pos refused, Nat.add_assoc]
      next accepted =>
        have later := ih _ (Outcome.map_eq_error_iff.mp failed)
        simp only [← Nat.add_assoc] at later
        rw [if_neg accepted, later]
        rfl

/-- Literal text without an opener is taken together with the literal text that follows it. -/
theorem scanFrom_append_literal (bare : ¬ opener <:+: front) (apart : Apart front back)
    (start : Nat) :
    tokenizer.scanFrom start (front ++ back) =
      (tokenizer.scanFrom (start + byteLength front) back).map (joinTokens (textTokens front)) := by
  have cut := cut?_opener_of_apart bare apart
  have alone : joinTokens (textTokens front) (textTokens back) = textTokens (front ++ back) := by
    have joined := joinTokens_textTokens front back [] fun token member => by cases member
    rwa [List.append_nil, List.append_nil] at joined
  cases opened : cut? opener back with
  | none =>
      rw [opened] at cut
      rw [Tokenizer.scanFrom_text cut, Tokenizer.scanFrom_text opened, ← alone]
      rfl
  | some parts =>
      obtain ⟨before, inner⟩ := parts
      rw [opened] at cut
      have place : start + byteLength (front ++ before) =
          start + byteLength front + byteLength before := by
        rw [Text.byteLength_append, Nat.add_assoc]
      cases closed : cut? closer inner with
      | none =>
          rw [Tokenizer.scanFrom_unclosed cut closed, Tokenizer.scanFrom_unclosed opened closed,
            place]
          split
          · rfl
          · rw [← alone]
            rfl
      | some parts =>
          obtain ⟨contents, rest⟩ := parts
          rw [Tokenizer.scanFrom_placeholder cut closed,
            Tokenizer.scanFrom_placeholder opened closed, place]
          split
          · rfl
          · cases tokenizer.scanFrom _ rest with
            | error error => rfl
            | ok tokens =>
                have joined := joinTokens_textTokens front before
                  (classify tokenizer.keywordBoundary contents :: tokens) fun token member => by
                    cases member
                    exact isText_classify _ contents
                exact congrArg Except.ok joined.symm

/-- The scan of two texts goes through the first and on with the second. -/
theorem scanFrom_append_apart {offset : Nat} (read : tokenizer.scanFrom offset front = .ok tokens)
    (bare : ∀ run, .text run ∈ tokens → ¬ opener <:+: run.toList) (apart : Apart front back)
    (start : Nat) :
    tokenizer.scanFrom start (front ++ back) =
      (tokenizer.scanFrom (start + byteLength front) back).map (joinTokens tokens) := by
  refine Tokenizer.read_induction
    (motive := fun front tokens => (∀ run, .text run ∈ tokens → ¬ opener <:+: run.toList) →
      Apart front back → ∀ start, tokenizer.scanFrom start (front ++ back) =
        (tokenizer.scanFrom (start + byteLength front) back).map (joinTokens tokens))
    ?_ ?_ read bare apart start
  · intro front _ bare apart start
    refine scanFrom_append_literal ?_ apart start
    by_cases empty : front = []
    · rw [empty]
      decide
    · rw [textTokens_of_ne_nil empty] at bare
      have own := bare _ List.mem_cons_self
      rwa [String.toList_ofList] at own
  · intro front before inner contents rest later opened closed readable ih bare apart start
    have opened' := Text.cut?_append_of_cut? Tokenizer.opener_ne_nil opened back
    have closed' := Text.cut?_append_of_cut? Tokenizer.closer_ne_nil closed back
    have apartRest : Apart rest back := by
      rintro ⟨last, first⟩
      refine getLast?_rest_ne opened closed ?_ last
      exact fun ends => apart ⟨ends, first⟩
    have bareLater : ∀ run, .text run ∈ later → ¬ opener <:+: run.toList := fun run member =>
      bare run (List.mem_append_right _ (List.mem_cons_of_mem _ member))
    have length : byteLength front = byteLength before +
        (byteLength opener + byteLength contents + byteLength closer) + byteLength rest := by
      rw [Tokenizer.eq_append_of_placeholder opened closed]
      simp only [Text.byteLength_append]
    have place : start + byteLength before + byteLength opener + byteLength contents +
        byteLength closer + byteLength rest = start + byteLength front := by omega
    rw [Tokenizer.scanFrom_readable opened' closed' readable, ih bareLater apartRest, place]
    cases tokenizer.scanFrom (start + byteLength front) back with
    | error error => rfl
    | ok more =>
        have joined := joinTokens_textTokens_cons before
          (isText_classify tokenizer.keywordBoundary contents) later more
        exact congrArg Except.ok joined.symm

end Scanning

end Templating.Template

namespace Templating

open Template

/-- The output of tokens one after the other, whether or not a literal run grows at the border. -/
theorem Evaluation.render_joinTokens {registry : Registry} {scope : Bindings}
    (front back : List Token) :
    render registry scope (joinTokens front back) =
      (render registry scope front).andThen fun text =>
        (render registry scope back).map (text ++ ·) := by
  fun_induction joinTokens front back with
  | case1 back =>
      rw [render, Traced.andThen_ok]
      simp only [String.empty_append]
      exact (Traced.map_id _).symm
  | case2 run more back =>
      have first : render registry scope [.text run] = .ok run := render_singleton _
      have joined : render registry scope (.text (run ++ more) :: back) =
          (render registry scope back).map (run ++ more ++ ·) := Traced.andThen_ok _ _
      have second : render registry scope (.text more :: back) =
          (render registry scope back).map (more ++ ·) := Traced.andThen_ok _ _
      rw [first, joined, Traced.andThen_ok, second, Traced.map_map]
      simp only [String.append_assoc]
  | case3 token front back _ ih =>
      rw [render, ih, render, Traced.andThen_assoc]
      refine congrArg _ (funext fun text => ?_)
      rw [Traced.map_andThen, Traced.andThen_map]
      simp only [Traced.map_map, String.append_assoc]

variable {tokenizer : Tokenizer}

/-- Lenient rendering of two templates one after the other. -/
theorem Engine.render_append {engine : Engine} {first second : String} {tokens more : List Token}
    (read : engine.tokenizer.tokenize first = .ok tokens)
    (readMore : engine.tokenizer.tokenize second = .ok more)
    (whole : engine.tokenizer.tokenize (first ++ second) = .ok (joinTokens tokens more))
    (scope : Bindings) :
    engine.render scope (first ++ second) =
      (engine.render scope first).andThen fun text =>
        (engine.render scope second).map (text ++ ·) := by
  unfold render
  rw [read, readMore, whole]
  dsimp only
  rw [Evaluation.render_joinTokens, Traced.mapError_andThen]
  simp only [Traced.mapError_map]

/-- A template that leaves no opener in its literal text, and does not end in the middle of one, can
be followed by any other: the tokens of the whole are those of both, with literal text at the border
in one run, and the second is refused for the same reason, at a place that is further back by the
bytes of the first. Read leniently, the whole renders to the outputs one after the other or to the
first error, with the filter calls of both in order. -/
theorem Tokenizer.tokenize_append {first : String} {tokens : List Token}
    (read : tokenizer.tokenize first = .ok tokens)
    (bare : ∀ run, .text run ∈ tokens → ¬ opener <:+: run.toList) (second : String)
    (apart : Apart first.toList second.toList) :
    (∀ more, tokenizer.tokenize second = .ok more →
      tokenizer.tokenize (first ++ second) = .ok (joinTokens tokens more)) ∧
    (∀ error, tokenizer.tokenize second = .error error →
      ∃ place reason, error = .malformedTemplate place reason ∧
        tokenizer.tokenize (first ++ second) =
          .error (.malformedTemplate (first.utf8ByteSize + place) reason)) ∧
    (tokenizer.strict = false → ∀ engine : Engine, engine.tokenizer = tokenizer → ∀ scope,
      engine.render scope (first ++ second) =
        (engine.render scope first).andThen fun text =>
          (engine.render scope second).map (text ++ ·)) := by
  have scanned := (tokenize_eq_scan tokenizer first).symm.trans read
  have size : first.utf8ByteSize = Text.byteLength first.toList := by
    rw [← Text.utf8ByteSize_ofList, String.ofList_toList]
  have whole : tokenizer.tokenize (first ++ second) =
      (tokenizer.scanFrom first.utf8ByteSize second.toList).map (joinTokens tokens) := by
    rw [tokenize_eq_scan, scan, String.toList_append, scanFrom_append_apart scanned bare apart 0,
      Nat.zero_add, size]
  have accepted : ∀ more, tokenizer.tokenize second = .ok more →
      tokenizer.tokenize (first ++ second) = .ok (joinTokens tokens more) := by
    intro more readMore
    rw [tokenize_eq_scan] at readMore
    rw [whole, scanFrom_ok_at readMore]
    rfl
  refine ⟨accepted, ?_, ?_⟩
  · intro error failed
    obtain ⟨-, place, reason, rfl⟩ := strict_of_tokenize_error failed
    rw [tokenize_eq_scan] at failed
    have later := scanFrom_error_at first.utf8ByteSize failed
    rw [Nat.add_zero] at later
    refine ⟨place, reason, rfl, ?_⟩
    rw [whole, later]
    rfl
  · rintro lenient engine rfl scope
    obtain ⟨more, readMore⟩ := exists_tokenize lenient second
    exact engine.render_append read readMore (accepted more readMore) scope

/-- Braces on both sides of the border that delimit nothing, and a letter of two bytes before an
opener that is never closed. -/
theorem Tokenizer.tokenize_append_braces :
    let first := "é\x7b\x7b a \x7d\x7d\x7d"
    let second := "\x7d \x7b\x7b b \x7d\x7d"
    let engine : Engine := ⟨.empty, {}, .epoch⟩
    let scope : Bindings := .ofPairs [("a", .int 1), ("b", .string "x")]
    engine.tokenizer.tokenize (first ++ second) =
        .ok [.text "é", .plain "a", .text "\x7d\x7d ", .plain "b"] ∧
      (engine.render scope (first ++ second)).outcome = .ok "é1\x7d\x7d x" ∧
      Tokenizer.tokenize ⟨true, false⟩ (first ++ "\x7b \x7b\x7b b") =
        .error (.malformedTemplate 12 .unclosed) := by
  intro first second engine scope
  have read : ∀ strict, Tokenizer.tokenize ⟨strict, false⟩ first =
      .ok [.text "é", .plain "a", .text "\x7d"] := fun strict =>
    tokenize_around ['é'] " a ".toList ['\x7d'] (by decide) (by decide) rfl
      (Bool.and_false strict)
  have readSecond : engine.tokenizer.tokenize second = .ok [.text "\x7d ", .plain "b"] :=
    tokenize_around "\x7d ".toList " b ".toList [] (by decide) (by decide) rfl rfl
  have refused : Tokenizer.tokenize ⟨true, false⟩ "\x7b \x7b\x7b b" =
      .error (.malformedTemplate 2 .unclosed) :=
    tokenize_unclosed "\x7b ".toList " b".toList rfl (by decide) (by decide)
  have bare : ∀ run, .text run ∈ [Token.text "é", .plain "a", .text "\x7d"] →
      ¬ opener <:+: run.toList := by
    intro run member
    simp only [List.mem_cons, Token.text.injEq, reduceCtorEq, List.not_mem_nil, or_false,
      false_or] at member
    rcases member with rfl | rfl <;> decide
  obtain ⟨joined, -, renders⟩ :=
    tokenize_append (read false) bare second (by simp [Apart, first, second])
  obtain ⟨-, refusal, -⟩ :=
    tokenize_append (read true) bare "\x7b \x7b\x7b b" (by simp [Apart, first])
  obtain ⟨place, reason, same, failed⟩ := refusal _ refused
  cases same
  refine ⟨joined _ readSecond, ?_, failed⟩
  rw [renders rfl engine rfl scope, Engine.render, Engine.render, readSecond]
  rw [show engine.tokenizer.tokenize first = _ from read false]
  rfl

end Templating
