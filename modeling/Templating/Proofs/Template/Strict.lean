import Templating.Proofs.Outcome
import Templating.Proofs.Template.Source

/-!
# Strict and lenient reading

Strict reading gives what lenient reading gives, unless there is something to refuse: a placeholder
of no class, or text that holds an opener. It then names the first offending opener, which is one
that stands after a template that strict reading accepts.
-/

namespace Templating.Template

open Text (cut? trim byteLength)

/-! ## What is refused -/

/-- Why the placeholder is refused whose opener stands before `inner`: it is never closed, or its
contents, which reach to the first closer, are of no class. -/
inductive Refused (boundary : Bool) (inner : List Char) : Malformed → Prop where
  | unclosed (absent : ¬ closer <:+: inner) : Refused boundary inner .unclosed
  | unreadable {contents rest : List Char} (split : inner = contents ++ closer ++ rest)
      (first : ¬ closer <:+: contents ++ closer.dropLast)
      (noClass : classify boundary contents = .undefined (String.ofList (trim contents))) :
      Refused boundary inner (.unreadable (String.ofList (trim contents)))

/-- The first offending opener of a template stands between `before` and `inner`. What is before it
is accepted and does not end in a brace, with which the opener would begin. -/
structure Offence (tokenizer : Tokenizer) (template before inner : List Char)
    (reason : Malformed) : Prop where
  split : template = before ++ opener ++ inner
  accepted : ∃ tokens, tokenizer.tokenize (String.ofList before) = .ok tokens
  getLast?_ne : before.getLast? ≠ some '\x7b'
  refused : Refused tokenizer.keywordBoundary inner reason

theorem eq_undefined_of_classify {boundary : Bool} {contents : List Char}
    (undefined : (classify boundary contents).isUndefined = true) :
    classify boundary contents = .undefined (String.ofList (trim contents)) := by
  have raw := raw_classify boundary contents
  cases found : classify boundary contents with
  | undefined text =>
      rw [found] at raw
      exact congrArg Token.undefined raw
  | _ =>
      rw [found] at undefined
      cases undefined

section Scanning

variable {tokenizer : Tokenizer} {offset : Nat} {template before inner contents rest : List Char}
  {tokens : List Token} {reason : Malformed}

/-- Where a template starts matters for the places of errors only. -/
theorem scanFrom_ok_at (read : tokenizer.scanFrom offset template = .ok tokens) (other : Nat) :
    tokenizer.scanFrom other template = .ok tokens := by
  refine Tokenizer.read_induction
    (motive := fun template tokens => ∀ other, tokenizer.scanFrom other template = .ok tokens)
    ?_ ?_ read other
  · exact fun template unclosed other => Tokenizer.scanFrom_literal unclosed
  · intro template before inner contents rest later opened closed readable ih other
    rw [Tokenizer.scanFrom_readable opened closed readable, ih]
    rfl

theorem tokenize_ofList_ok_iff (offset : Nat) :
    tokenizer.tokenize (String.ofList template) = .ok tokens ↔
      tokenizer.scanFrom offset template = .ok tokens := by
  rw [Tokenizer.tokenize_eq_scan, String.toList_ofList]
  exact ⟨fun read => scanFrom_ok_at read offset, fun read => scanFrom_ok_at read 0⟩

/-- An opener whose placeholder is refused ends the scan. -/
theorem scanFrom_refused (strict : tokenizer.strict = true)
    (opened : cut? opener template = some (before, inner))
    (refused : Refused tokenizer.keywordBoundary inner reason) :
    tokenizer.scanFrom offset template =
      .error (.malformedTemplate (offset + byteLength before) reason) := by
  cases refused with
  | unclosed absent =>
      rw [Tokenizer.scanFrom_unclosed opened (Text.cut?_eq_none_iff.mpr absent), if_pos strict]
  | unreadable split first noClass =>
      have closed := (Text.cut?_eq_some_iff Tokenizer.closer_ne_nil).mpr ⟨split, first⟩
      rw [Tokenizer.scanFrom_placeholder opened closed, strict, noClass]
      rfl

/-! ## Strict reading refuses at the offence -/

/-- The first opener is found where it stands, after text that neither holds one nor begins it. -/
theorem cut?_opener_append (bare : cut? opener before = none)
    (last : before.getLast? ≠ some '\x7b') :
    cut? opener (before ++ opener ++ inner) = some (before, inner) := by
  refine Text.cut?_append Tokenizer.opener_ne_nil inner ?_
  intro early
  rcases double_infix_concat_iff.mp early with inside | ends
  · exact Text.cut?_eq_none_iff.mp bare inside
  · exact last ends

/-- A cut stays where it is when more text follows. -/
theorem getLast?_rest_ne (opened : cut? opener template = some (before, inner))
    (closed : cut? closer inner = some (contents, rest))
    (last : template.getLast? ≠ some '\x7b') : rest.getLast? ≠ some '\x7b' := by
  intro ends
  have filled : rest ≠ [] := by
    rintro rfl
    cases ends
  apply last
  rw [Tokenizer.eq_append_of_placeholder opened closed, List.getLast?_append_of_ne_nil _ filled,
    ends]

/-- A scan goes through a template that is accepted and fails at an offence right after it. -/
theorem scanFrom_append_refused (strict : tokenizer.strict = true)
    (accepted : tokenizer.scanFrom offset before = .ok tokens)
    (last : before.getLast? ≠ some '\x7b')
    (refused : Refused tokenizer.keywordBoundary inner reason) (start : Nat) :
    tokenizer.scanFrom start (before ++ opener ++ inner) =
      .error (.malformedTemplate (start + byteLength before) reason) := by
  -- The scan of `before` alone may have begun elsewhere, so `start` varies on its own.
  induction offset, before using Tokenizer.scan_induction generalizing tokens start with
  | text offset before bare =>
      exact scanFrom_refused strict (cut?_opener_append bare last) refused
  | unclosed offset before front behind opened unclosed =>
      rw [Tokenizer.scanFrom_unclosed opened unclosed, if_pos strict] at accepted
      cases accepted
  | placeholder offset before front behind contents rest opened closed ih =>
      obtain ⟨next, later, found, readable, -⟩ :=
        Tokenizer.eq_append_of_scanFrom_placeholder opened closed accepted
      have opened' := Text.cut?_append_of_cut? Tokenizer.opener_ne_nil opened (opener ++ inner)
      have closed' := Text.cut?_append_of_cut? Tokenizer.closer_ne_nil closed (opener ++ inner)
      have fails := ih next found (getLast?_rest_ne opened closed last)
        (start + byteLength front + byteLength opener + byteLength contents + byteLength closer)
      rw [List.append_assoc] at fails ⊢
      rw [Tokenizer.scanFrom_readable opened' closed' readable, fails]
      have length : byteLength before = byteLength front +
          (byteLength opener + byteLength contents + byteLength closer) + byteLength rest := by
        rw [Tokenizer.eq_append_of_placeholder opened closed]
        simp only [Text.byteLength_append]
      have place : start + byteLength front + byteLength opener + byteLength contents +
          byteLength closer + byteLength rest = start + byteLength before := by omega
      rw [place]
      rfl

/-! ## A refusal is at an offence -/

theorem Offence.here (opened : cut? opener template = some (before, inner))
    (refused : Refused tokenizer.keywordBoundary inner reason) :
    Offence tokenizer template before inner reason := by
  have first := Text.not_infix_of_cut? Tokenizer.opener_ne_nil opened
  have bare : cut? opener before = none :=
    Text.cut?_eq_none_iff.mpr (Text.not_infix_before_of_cut? Tokenizer.opener_ne_nil opened)
  refine ⟨Text.eq_append_of_cut? opened, ⟨textTokens before, ?_⟩, ?_, refused⟩
  · rw [tokenize_ofList_ok_iff 0, Tokenizer.scanFrom_text bare]
  · exact fun last => first (double_infix_concat_iff.mpr (.inr last))

/-- An offence in what follows a placeholder that is accepted is one of the whole template. -/
theorem Offence.after {front behind : List Char}
    (opened : cut? opener template = some (front, behind))
    (closed : cut? closer behind = some (contents, rest))
    (readable : (tokenizer.strict &&
      (classify tokenizer.keywordBoundary contents).isUndefined) = false)
    (offence : Offence tokenizer rest before inner reason) :
    Offence tokenizer template (front ++ opener ++ (contents ++ closer ++ before)) inner
      reason := by
  obtain ⟨split, ⟨tokens, accepted⟩, last, refused⟩ := offence
  have outer := (Text.cut?_eq_some_iff Tokenizer.opener_ne_nil).mp opened
  have within := (Text.cut?_eq_some_iff Tokenizer.closer_ne_nil).mp closed
  refine ⟨?_, ⟨textTokens front ++ classify tokenizer.keywordBoundary contents :: tokens, ?_⟩, ?_,
    refused⟩
  · rw [outer.1, within.1, split]
    simp only [List.append_assoc]
  · have opened' := Text.cut?_append Tokenizer.opener_ne_nil (contents ++ closer ++ before) outer.2
    have closed' := Text.cut?_append Tokenizer.closer_ne_nil before within.2
    rw [tokenize_ofList_ok_iff 0, Tokenizer.scanFrom_readable opened' closed' readable,
      (tokenize_ofList_ok_iff _).mp accepted]
    rfl
  · by_cases empty : before = []
    · rw [empty, List.append_nil, ← List.append_assoc, List.getLast?_append_of_ne_nil _
        Tokenizer.closer_ne_nil]
      decide
    · rw [← List.append_assoc, List.getLast?_append_of_ne_nil _ empty]
      exact last

/-- When strict reading fails, it gives the place of an offence. -/
theorem offence_of_scanFrom_error (strict : tokenizer.strict = true) {error : TemplateError}
    (failed : tokenizer.scanFrom offset template = .error error) :
    ∃ before inner reason, Offence tokenizer template before inner reason ∧
      error = .malformedTemplate (offset + byteLength before) reason := by
  induction offset, template using Tokenizer.scan_induction with
  | text offset template bare =>
      rw [Tokenizer.scanFrom_text bare] at failed
      cases failed
  | unclosed offset template before inner opened unclosed =>
      have refused : Refused tokenizer.keywordBoundary inner .unclosed :=
        .unclosed (Text.cut?_eq_none_iff.mp unclosed)
      rw [scanFrom_refused strict opened refused] at failed
      cases failed
      exact ⟨before, inner, .unclosed, .here opened refused, rfl⟩
  | placeholder offset template before inner contents rest opened closed ih =>
      obtain ⟨split, first⟩ := (Text.cut?_eq_some_iff Tokenizer.closer_ne_nil).mp closed
      cases undefined : (classify tokenizer.keywordBoundary contents).isUndefined with
      | true =>
          have refused : Refused tokenizer.keywordBoundary inner _ :=
            .unreadable split first (eq_undefined_of_classify undefined)
          rw [scanFrom_refused strict opened refused] at failed
          cases failed
          exact ⟨before, inner, _, .here opened refused, rfl⟩
      | false =>
          have readable : (tokenizer.strict &&
              (classify tokenizer.keywordBoundary contents).isUndefined) = false := by
            rw [undefined, Bool.and_false]
          rw [Tokenizer.scanFrom_readable opened closed readable] at failed
          obtain ⟨before', inner', reason, offence, rfl⟩ :=
            ih _ (Outcome.map_eq_error_iff.mp failed)
          refine ⟨_, inner', reason, offence.after opened closed readable, ?_⟩
          simp only [Text.byteLength_append, Nat.add_assoc]

/-! ## What both readings give -/

/-- What strict reading gives, lenient reading gives. -/
theorem lenient_of_strict {boundary : Bool}
    (read : Tokenizer.scanFrom ⟨true, boundary⟩ offset template = .ok tokens) :
    Tokenizer.scanFrom ⟨false, boundary⟩ offset template = .ok tokens := by
  induction offset, template using Tokenizer.scan_induction generalizing tokens with
  | text offset template bare =>
      rw [Tokenizer.scanFrom_text bare] at read ⊢
      exact read
  | unclosed offset template before inner opened unclosed =>
      rw [Tokenizer.scanFrom_unclosed opened unclosed, if_pos rfl] at read
      cases read
  | placeholder offset template before inner contents rest opened closed ih =>
      obtain ⟨next, later, found, -, rfl⟩ :=
        Tokenizer.eq_append_of_scanFrom_placeholder opened closed read
      rw [Tokenizer.scanFrom_readable opened closed rfl, scanFrom_ok_at (ih next found)]
      rfl

/-- What lenient reading gives, strict reading gives if there is nothing to refuse in it. -/
theorem strict_of_lenient {boundary : Bool}
    (read : Tokenizer.scanFrom ⟨false, boundary⟩ offset template = .ok tokens)
    (kept : ∀ token ∈ tokens, IsStrict token) :
    Tokenizer.scanFrom ⟨true, boundary⟩ offset template = .ok tokens := by
  induction offset, template using Tokenizer.scan_induction generalizing tokens with
  | text offset template bare =>
      rw [Tokenizer.scanFrom_text bare] at read ⊢
      exact read
  | unclosed offset template before inner opened unclosed =>
      rw [Tokenizer.scanFrom_unclosed opened unclosed, if_neg Bool.false_ne_true] at read
      cases read
      have filled : template ≠ [] := by
        rintro rfl
        cases opened
      rw [textTokens_of_ne_nil filled] at kept
      have bare : Text.contains opener (String.ofList template).toList = false :=
        kept _ List.mem_cons_self
      rw [String.toList_ofList, Text.contains, opened] at bare
      cases bare
  | placeholder offset template before inner contents rest opened closed ih =>
      obtain ⟨next, later, found, -, rfl⟩ :=
        Tokenizer.eq_append_of_scanFrom_placeholder opened closed read
      let reader : Tokenizer := ⟨true, boundary⟩
      have readable : (reader.strict &&
          (classify reader.keywordBoundary contents).isUndefined) = false :=
        (kept _ (List.mem_append_right _ List.mem_cons_self)).not_isUndefined
      have laterKept : ∀ token ∈ later, IsStrict token := fun token member =>
        kept token (List.mem_append_right _ (List.mem_cons_of_mem _ member))
      rw [Tokenizer.scanFrom_readable opened closed readable,
        scanFrom_ok_at (ih next found laterKept)]
      rfl

end Scanning

/-- Strict reading gives tokens exactly when lenient reading gives these tokens, with none that is
undefined and no text with an opener among them. In all other cases it fails at an offence, with the
byte at which the opener stands; and where there is an offence, it fails at this one. -/
theorem tokenize_strict (boundary : Bool) (template : String) :
    (∀ tokens, Tokenizer.tokenize ⟨true, boundary⟩ template = .ok tokens ↔
      Tokenizer.tokenize ⟨false, boundary⟩ template = .ok tokens ∧
        ∀ token ∈ tokens, IsStrict token) ∧
    ((¬ ∃ tokens, Tokenizer.tokenize ⟨false, boundary⟩ template = .ok tokens ∧
        ∀ token ∈ tokens, IsStrict token) →
      ∃ before inner reason, Offence ⟨true, boundary⟩ template.toList before inner reason ∧
        Tokenizer.tokenize ⟨true, boundary⟩ template =
          .error (.malformedTemplate (String.ofList before).utf8ByteSize reason)) ∧
    ∀ before inner reason, Offence ⟨true, boundary⟩ template.toList before inner reason →
      Tokenizer.tokenize ⟨true, boundary⟩ template =
        .error (.malformedTemplate (String.ofList before).utf8ByteSize reason) := by
  have accepted : ∀ tokens, Tokenizer.tokenize ⟨true, boundary⟩ template = .ok tokens ↔
      Tokenizer.tokenize ⟨false, boundary⟩ template = .ok tokens ∧
        ∀ token ∈ tokens, IsStrict token := by
    intro tokens
    rw [Tokenizer.tokenize_eq_scan, Tokenizer.tokenize_eq_scan]
    constructor
    · intro read
      exact ⟨lenient_of_strict read, isStrict_of_scanFrom rfl read⟩
    · rintro ⟨read, kept⟩
      exact strict_of_lenient read kept
  refine ⟨accepted, ?_, ?_⟩
  · intro refused
    cases outcome : Tokenizer.tokenize ⟨true, boundary⟩ template with
    | ok tokens => exact absurd ⟨tokens, (accepted tokens).mp outcome⟩ refused
    | error error =>
        rw [Tokenizer.tokenize_eq_scan] at outcome
        obtain ⟨before, inner, reason, offence, rfl⟩ := offence_of_scanFrom_error rfl outcome
        refine ⟨before, inner, reason, offence, ?_⟩
        rw [Text.utf8ByteSize_ofList, Nat.zero_add]
  · intro before inner reason offence
    obtain ⟨split, ⟨tokens, read⟩, last, refused⟩ := offence
    rw [Tokenizer.tokenize_eq_scan, Tokenizer.scan, split, Text.utf8ByteSize_ofList,
      scanFrom_append_refused rfl ((tokenize_ofList_ok_iff 0).mp read) last refused 0,
      Nat.zero_add]

/-- A letter of two bytes and a placeholder stand before contents that begin with a brace, and an
opener that is never closed comes later. -/
theorem tokenize_strict_bytes :
    let strict : Tokenizer := ⟨true, false⟩
    let lenient : Tokenizer := ⟨false, false⟩
    lenient.tokenize "é\x7b\x7b a \x7d\x7d" = .ok [.text "é", .plain "a"] ∧
      strict.tokenize "é\x7b\x7b a \x7d\x7d" = .ok [.text "é", .plain "a"] ∧
      strict.tokenize "é\x7b\x7b a \x7d\x7d\x7b\x7b\x7b b c\x7d\x7d \x7b\x7b" =
        .error (.malformedTemplate 9 (.unreadable "\x7b b c")) := by
  intro strict lenient
  have read : lenient.tokenize "é\x7b\x7b a \x7d\x7d" = .ok [.text "é", .plain "a"] :=
    Tokenizer.tokenize_around ['é'] " a ".toList [] (by decide) (by decide) rfl rfl
  have kept : ∀ token ∈ [Token.text "é", .plain "a"], IsStrict token := by
    have bare : Text.contains opener "é".toList = false := by decide
    simpa [IsStrict] using bare
  have accepted : strict.tokenize "é\x7b\x7b a \x7d\x7d" = .ok [.text "é", .plain "a"] :=
    ((tokenize_strict false _).1 _).mpr ⟨read, kept⟩
  have split : "\x7b b c\x7d\x7d \x7b\x7b".toList =
      "\x7b b c".toList ++ closer ++ " \x7b\x7b".toList := by decide
  have first : ¬ closer <:+: "\x7b b c".toList ++ closer.dropLast := by decide
  have refused : Refused false "\x7b b c\x7d\x7d \x7b\x7b".toList (.unreadable "\x7b b c") :=
    .unreadable split first rfl
  refine ⟨read, accepted, ?_⟩
  exact (tokenize_strict false _).2.2 "é\x7b\x7b a \x7d\x7d".toList _ _
    ⟨by decide, ⟨_, accepted⟩, by decide, refused⟩

end Templating.Template
