import Templating.Engine
import Templating.Proofs.Outcome
import Templating.Proofs.Template.Scan

/-!
# The output and the value of a template

A template can be rendered to text or evaluated to a value. The text is that of the value: a single
placeholder keeps the kind of its value until then, and everything else is text from the start. Both
make the same filter calls and fail together, with the error inside a wrapping when text is wanted.
-/

namespace Templating

namespace Evaluation

variable {registry : Registry} {scope : Bindings}

theorem map_string_toText (result : Traced String) :
    (result.map Value.string).map Value.toText = result := by
  obtain ⟨outcome, calls⟩ := result
  cases outcome <;> rfl

theorem tokenText_of_isVariable {token : Token} (isVariable : token.isVariable = true) :
    tokenText registry scope token = (tokenValue registry scope token).map Value.toText := by
  cases token with
  | plain name => rfl
  | filtered raw pipeline => rfl
  | _ => cases isVariable

theorem render_singleton (token : Token) :
    render registry scope [token] = tokenText registry scope token := by
  rw [render, render]
  obtain ⟨outcome, calls⟩ := tokenText registry scope token
  cases outcome with
  | error error => rfl
  | ok text =>
      change Traced.mk (.ok (text ++ "")) (calls ++ []) = _
      rw [String.append_empty, List.append_nil]

/-- The output of tokens is the text of their value. -/
theorem render_eq_map_renderValue (tokens : List Token) :
    render registry scope tokens = (renderValue registry scope tokens).map Value.toText := by
  have whole := map_string_toText (render registry scope tokens)
  match tokens with
  | [] => exact whole.symm
  | [token] =>
      cases isVariable : token.isVariable with
      | true =>
          rw [renderValue, isVariable, if_pos rfl, render_singleton,
            tokenText_of_isVariable isVariable]
      | false =>
          rw [renderValue, isVariable, if_neg Bool.false_ne_true]
          exact whole.symm
  | _ :: _ :: _ => exact whole.symm

end Evaluation

namespace Engine

variable {engine : Engine} {scope : Bindings} {template : String} {tokens : List Token}

theorem render_of_tokenize_error {error : TemplateError}
    (refused : engine.tokenizer.tokenize template = .error error) :
    engine.render scope template = .fail (.parseFailed error) := by
  rw [render, refused]

theorem resolveTemplate_of_tokenize_error {error : TemplateError}
    (refused : engine.tokenizer.tokenize template = .error error) :
    engine.resolveTemplate scope template = .fail error := by
  rw [resolveTemplate, refused]

/-- Text without placeholders has the value that it would have if it were evaluated. -/
theorem resolveTemplate_of_tokenize (read : engine.tokenizer.tokenize template = .ok tokens) :
    engine.resolveTemplate scope template =
      Evaluation.renderValue engine.registry scope tokens := by
  rw [resolveTemplate, read]
  split
  next failed => cases failed
  next empty =>
      cases empty
      rfl
  next run single =>
      cases single
      change _ = (Evaluation.render engine.registry scope [.text run]).map Value.string
      rw [Evaluation.render_singleton]
      rfl
  next whole =>
      cases whole
      rfl

theorem render_of_tokenize (read : engine.tokenizer.tokenize template = .ok tokens) :
    engine.render scope template =
      ((engine.resolveTemplate scope template).map Value.toText).mapError
        TemplateError.renderFailed := by
  rw [render, read, resolveTemplate_of_tokenize read, ← Evaluation.render_eq_map_renderValue]

/-- Rendering gives the text of the value, or wraps its error: as one of parsing if the template is
refused, and as one of rendering otherwise. The filter calls are the same, and the value is that of
the tokens, also where it is known without evaluating them. -/
theorem render_eq_text_of_value (engine : Engine) (scope : Bindings) (template : String) :
    let text := engine.render scope template
    let value := engine.resolveTemplate scope template
    (∀ output, text.outcome = .ok output ↔
      ∃ result, value.outcome = .ok result ∧ result.toText = output) ∧
    (∀ error, text.outcome = .error (.parseFailed error) ∨
        text.outcome = .error (.renderFailed error) ↔ value.outcome = .error error) ∧
    (∀ error, text.outcome = .error (.parseFailed error) ↔
      engine.tokenizer.tokenize template = .error error) ∧
    (∀ error, text.outcome = .error error →
      ∃ inside, error = .parseFailed inside ∨ error = .renderFailed inside) ∧
    text.calls = value.calls ∧
    ∀ tokens, engine.tokenizer.tokenize template = .ok tokens →
      value = Evaluation.renderValue engine.registry scope tokens := by
  intro text value
  cases read : engine.tokenizer.tokenize template with
  | error refusal =>
      have refused : text = .fail (.parseFailed refusal) := render_of_tokenize_error read
      have valueless : value = .fail refusal := resolveTemplate_of_tokenize_error read
      rw [refused, valueless]
      simp [Traced.fail]
  | ok tokens =>
      have wrapped : text = (value.map Value.toText).mapError TemplateError.renderFailed :=
        render_of_tokenize read
      have failed_iff : ∀ error, text.outcome = .error error ↔
          ∃ inside, value.outcome = .error inside ∧ TemplateError.renderFailed inside = error := by
        intro error
        rw [wrapped]
        exact Outcome.mapError_eq_error_iff.trans
          (exists_congr fun inside => and_congr_left fun _ => Outcome.map_eq_error_iff)
      refine ⟨?_, ?_, ?_, ?_, ?_, ?_⟩
      · intro output
        rw [wrapped]
        exact Outcome.mapError_eq_ok_iff.trans Outcome.map_eq_ok_iff
      · intro error
        simp [failed_iff]
      · intro error
        simp [failed_iff]
      · intro error failed
        obtain ⟨inside, -, wrapping⟩ := (failed_iff error).mp failed
        exact ⟨inside, .inr wrapping.symm⟩
      · rw [wrapped]
        rfl
      · rintro _ ⟨⟩
        exact resolveTemplate_of_tokenize read

/-- A list that is the value of its template and is written as JSON in the output, and a variable
that is not there. -/
theorem render_eq_text_of_value_list :
    let engine : Engine := ⟨.empty, {}, .epoch⟩
    let flags : Value := .list [.nil, .bool true]
    let scope : Bindings := .ofPairs [("flags", flags)]
    (engine.resolveTemplate scope "\x7b\x7b flags \x7d\x7d").outcome = .ok flags ∧
      (engine.render scope "\x7b\x7b flags \x7d\x7d").outcome = .ok "[null,true]" ∧
      (engine.resolveTemplate .empty "\x7b\x7b flags \x7d\x7d").outcome =
        .error (.variableNotFound "flags") := by
  intro engine flags scope
  have read : engine.tokenizer.tokenize "\x7b\x7b flags \x7d\x7d" = .ok [.plain "flags"] :=
    Tokenizer.tokenize_single " flags ".toList (by decide) (by decide) rfl rfl
  have failed : (engine.render .empty "\x7b\x7b flags \x7d\x7d").outcome =
      .error (.renderFailed (.variableNotFound "flags")) := by
    rw [render, read]
    rfl
  obtain ⟨text, -, -, -, -, value⟩ :=
    render_eq_text_of_value engine scope "\x7b\x7b flags \x7d\x7d"
  obtain ⟨-, error, -⟩ := render_eq_text_of_value engine .empty "\x7b\x7b flags \x7d\x7d"
  have found : (engine.resolveTemplate scope "\x7b\x7b flags \x7d\x7d").outcome = .ok flags := by
    rw [value _ read]
    rfl
  refine ⟨found, (text _).mpr ⟨flags, found, ?_⟩, (error _).mp (.inr failed)⟩
  rfl

end Engine

end Templating
