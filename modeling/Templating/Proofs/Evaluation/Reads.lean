import Templating.Engine
import Templating.Proofs.Evaluation.Agreement
import Templating.Proofs.Template.Scan

/-!
# What an evaluation reads

An evaluation reads the scope only at the names that its tokens, its template or its value refer to.
In two scopes that agree on these names it has the same outcome and makes the same filter calls. If
a template is refused, it is enough that they agree on the names gathered before it, since no scope
makes up for a refused template.
-/

namespace Templating

namespace Value

mutual

/-- The names in the templates of a value that are met before a template is refused. -/
def gathered (tokenizer : Tokenizer) : Value → List String
  | string template => (templateReferences tokenizer template).toOption.getD []
  | map entries => gatheredEntries tokenizer entries
  | _ => []

def gatheredEntries (tokenizer : Tokenizer) : List (String × Value) → List String
  | [] => []
  | (_, value) :: rest =>
      match value.references tokenizer with
      | .error _ => value.gathered tokenizer
      | .ok names => names ++ gatheredEntries tokenizer rest

end

mutual

/-- If no template is refused, all names of the value are gathered. -/
theorem gathered_of_references {tokenizer : Tokenizer} : (value : Value) → {names : List String} →
    value.references tokenizer = .ok names → value.gathered tokenizer = names
  | string template, _, read => by
      rw [references] at read
      rw [gathered, read]
      rfl
  | map entries, _, read => by
      rw [references] at read
      rw [gathered, gatheredEntries_of_entryReferences entries read]
  | nil, _, read => by cases read; rfl
  | bool _, _, read => by cases read; rfl
  | int _, _, read => by cases read; rfl
  | float _, _, read => by cases read; rfl
  | list _, _, read => by cases read; rfl
  | timestamp _, _, read => by cases read; rfl

theorem gatheredEntries_of_entryReferences {tokenizer : Tokenizer} :
    (entries : List (String × Value)) → {names : List String} →
      entryReferences tokenizer entries = .ok names → gatheredEntries tokenizer entries = names
  | [], _, read => by cases read; rfl
  | (key, value) :: rest, _, read => by
      rw [entryReferences] at read
      rw [gatheredEntries]
      cases own : value.references tokenizer with
      | error refusal =>
          rw [own] at read
          cases read
      | ok front =>
          rw [own] at read
          obtain ⟨back, others, rfl⟩ := Outcome.map_eq_ok_iff.mp read
          rw [gatheredEntries_of_entryReferences rest others]

end

end Value

namespace Engine

variable {engine : Engine} {first second : Bindings}

theorem resolveTemplate_agreeOn (template : String)
    (agree : ∀ names, templateReferences engine.tokenizer template = .ok names →
      Bindings.AgreeOn names first second) :
    engine.resolveTemplate first template = engine.resolveTemplate second template := by
  unfold resolveTemplate
  cases cut : engine.tokenizer.tokenize template with
  | error error => rfl
  | ok tokens =>
      have read : templateReferences engine.tokenizer template =
          .ok (tokens.flatMap Token.references) := by
        rw [templateReferences, cut]
        rfl
      have same : Evaluation.renderValue engine.registry first tokens =
          Evaluation.renderValue engine.registry second tokens :=
        Evaluation.renderValue_agreeOn tokens (agree _ read)
      split <;> simp_all

/-- An entry that has no value ends the map. -/
theorem resolveEntries_of_error {scope : Bindings} {key : String} {value : Value}
    {error : TemplateError} (rest : List (String × Value))
    (failed : (engine.resolveValue scope value).outcome = .error error) :
    engine.resolveEntries scope ((key, value) :: rest) =
      ⟨.error (.inVariable key error), (engine.resolveValue scope value).calls⟩ := by
  rw [resolveEntries]
  exact Traced.andThen_of_error (Outcome.mapError_eq_error_iff.mpr ⟨error, failed, rfl⟩) _

mutual

/-- A value with a template that is refused is resolved in no scope. -/
theorem resolveValue_of_refused : (value : Value) → {refusal : TemplateError} →
    value.references engine.tokenizer = .error refusal → (scope : Bindings) →
      ∃ error, (engine.resolveValue scope value).outcome = .error error
  | .string template, refusal, refused, scope => by
      rw [Value.references] at refused
      have cut := Outcome.map_eq_error_iff.mp refused
      refine ⟨refusal, ?_⟩
      rw [resolveValue, resolveTemplate, cut]
      rfl
  | .map entries, refusal, refused, scope => by
      rw [Value.references] at refused
      obtain ⟨error, failed⟩ := resolveEntries_of_refused entries refused scope
      exact ⟨error, Outcome.map_eq_error_iff.mpr failed⟩

theorem resolveEntries_of_refused : (entries : List (String × Value)) →
    {refusal : TemplateError} → Value.entryReferences engine.tokenizer entries = .error refusal →
      (scope : Bindings) → ∃ error, (engine.resolveEntries scope entries).outcome = .error error
  | [], _, refused, _ => by cases refused
  | (key, value) :: rest, refusal, refused, scope => by
      rw [Value.entryReferences] at refused
      cases comes : (engine.resolveValue scope value).outcome with
      | error error =>
          rw [resolveEntries_of_error rest comes]
          exact ⟨_, rfl⟩
      | ok resolved =>
          cases own : value.references engine.tokenizer with
          | error inside =>
              obtain ⟨error, failed⟩ := resolveValue_of_refused value own scope
              cases comes.symm.trans failed
          | ok names =>
              rw [own] at refused
              have others := Outcome.map_eq_error_iff.mp refused
              obtain ⟨error, failed⟩ := resolveEntries_of_refused rest others scope
              refine ⟨error, ?_⟩
              rw [resolveEntries, Traced.andThen_outcome]
              refine Outcome.bind_eq_error_iff.mpr (.inr ⟨resolved, ?_, ?_⟩)
              · exact Outcome.mapError_eq_ok_iff.mpr comes
              · exact Outcome.map_eq_error_iff.mpr failed

end

mutual

/-- Resolving a value reads the scope at the names that are gathered from it, and nowhere else. -/
theorem resolveValue_agreeOn_gathered : (value : Value) →
    Bindings.AgreeOn (value.gathered engine.tokenizer) first second →
      engine.resolveValue first value = engine.resolveValue second value
  | .string template, agree => by
      rw [resolveValue, resolveValue]
      refine resolveTemplate_agreeOn template fun names read => ?_
      rw [Value.gathered, read] at agree
      exact agree
  | .map entries, agree => by
      rw [Value.gathered] at agree
      rw [resolveValue, resolveValue, resolveEntries_agreeOn_gathered entries agree]
  | .nil, _ => rfl
  | .bool _, _ => rfl
  | .int _, _ => rfl
  | .float _, _ => rfl
  | .list _, _ => rfl
  | .timestamp _, _ => rfl

theorem resolveEntries_agreeOn_gathered : (entries : List (String × Value)) →
    Bindings.AgreeOn (Value.gatheredEntries engine.tokenizer entries) first second →
      engine.resolveEntries first entries = engine.resolveEntries second entries
  | [], _ => rfl
  | (key, value) :: rest, agree => by
      rw [Value.gatheredEntries] at agree
      cases own : value.references engine.tokenizer with
      | error refusal =>
          -- The rest is not gathered, and it is not evaluated either.
          rw [own] at agree
          have same := resolveValue_agreeOn_gathered value agree
          obtain ⟨error, failed⟩ := resolveValue_of_refused value own second
          rw [resolveEntries_of_error rest failed, resolveEntries_of_error rest (same ▸ failed),
            same]
      | ok names =>
          rw [own] at agree
          have front : Bindings.AgreeOn (value.gathered engine.tokenizer) first second := by
            rw [Value.gathered_of_references value own]
            exact agree.left
          rw [resolveEntries, resolveEntries, resolveValue_agreeOn_gathered value front,
            resolveEntries_agreeOn_gathered rest agree.right]

end

/-- Resolving a value reads the scope at the names that the value refers to, and nowhere else. -/
theorem resolveValue_agreeOn (value : Value) {names : List String}
    (read : value.references engine.tokenizer = .ok names)
    (agree : Bindings.AgreeOn names first second) :
    engine.resolveValue first value = engine.resolveValue second value := by
  apply resolveValue_agreeOn_gathered
  rw [Value.gathered_of_references value read]
  exact agree

/-- Collecting the references of a value gathers every name that resolving it can read, also where
it ends at a template that is refused, and the references of tokens are all that they can read:
scopes that agree on these names give the same results, the same errors and the same calls. -/
theorem resolution_reads_references (engine : Engine) (first second : Bindings) :
    (∀ (value : Value) (names : List String), value.references engine.tokenizer = .ok names →
      value.gathered engine.tokenizer = names) ∧
    (∀ value : Value, Bindings.AgreeOn (value.gathered engine.tokenizer) first second →
      engine.resolveValue first value = engine.resolveValue second value) ∧
    ∀ tokens : List Token, Bindings.AgreeOn (tokens.flatMap Token.references) first second →
      Evaluation.render engine.registry first tokens =
        Evaluation.render engine.registry second tokens ∧
      Evaluation.renderValue engine.registry first tokens =
        Evaluation.renderValue engine.registry second tokens ∧
      ∀ token ∈ tokens, Evaluation.tokenValue engine.registry first token =
        Evaluation.tokenValue engine.registry second token := by
  refine ⟨fun value names read => value.gathered_of_references read,
    fun value agree => resolveValue_agreeOn_gathered value agree, fun tokens agree => ?_⟩
  refine ⟨Evaluation.render_agreeOn tokens agree, Evaluation.renderValue_agreeOn tokens agree, ?_⟩
  intro token member
  apply Evaluation.tokenValue_agreeOn
  intro name reads
  exact agree name (List.mem_flatMap.mpr ⟨token, member, reads⟩)

/-- Strict reading refuses the second template of a map, so only the name in the first is gathered,
and scopes may differ at the other one. -/
theorem resolution_reads_references_refused :
    let engine : Engine := ⟨.empty, { strictSyntax := true }, .epoch⟩
    let first : Bindings := .ofPairs [("zone", .string "eu"), ("host", .int 7)]
    let second : Bindings := .ofPairs [("spare", .nil), ("zone", .string "eu")]
    let value : Value := .map [("near", .string "\x7b\x7b zone \x7d\x7d"),
      ("far", .string "\x7b\x7b host")]
    let tokens : List Token := [.text "in ", .plain "zone"]
    value.gathered engine.tokenizer = ["zone"] ∧
      value.references engine.tokenizer = .error (.malformedTemplate 0 .unclosed) ∧
      engine.resolveValue first value = engine.resolveValue second value ∧
      (engine.resolveValue second value).outcome =
        .error (.inVariable "far" (.malformedTemplate 0 .unclosed)) ∧
      Evaluation.render engine.registry first tokens =
        Evaluation.render engine.registry second tokens := by
  intro engine first second value tokens
  have readNear : engine.tokenizer.tokenize "\x7b\x7b zone \x7d\x7d" = .ok [.plain "zone"] :=
    Tokenizer.tokenize_single " zone ".toList (by decide) (by decide) rfl rfl
  have readFar : engine.tokenizer.tokenize "\x7b\x7b host" =
      .error (.malformedTemplate 0 .unclosed) :=
    Tokenizer.tokenize_unclosed [] " host".toList rfl (by decide) (by decide)
  have gathered : value.gathered engine.tokenizer = ["zone"] := by
    simp only [value, Value.gathered, Value.gatheredEntries, Value.references, templateReferences,
      readNear, readFar]
    rfl
  have refused : value.references engine.tokenizer =
      .error (.malformedTemplate 0 .unclosed) := by
    simp only [value, Value.references, Value.entryReferences, templateReferences, readNear,
      readFar]
    rfl
  have fails : (engine.resolveValue second value).outcome =
      .error (.inVariable "far" (.malformedTemplate 0 .unclosed)) := by
    simp only [value, resolveValue, resolveEntries, resolveTemplate, readNear, readFar]
    rfl
  obtain ⟨-, ofValue, ofTokens⟩ := resolution_reads_references engine first second
  have agree : Bindings.AgreeOn ["zone"] first second := by
    intro name member
    obtain rfl := List.mem_singleton.mp member
    rfl
  exact ⟨gathered, refused, ofValue value (gathered ▸ agree), fails, (ofTokens tokens agree).1⟩

end Engine

end Templating
