import Templating.Layers
import Templating.Proofs.Batch.Isolation
import Templating.Proofs.Batch.Sequence

/-!
# Layers as one batch

Layers are resolved in two steps, each over a scope of its own. Where they do not interfere, this is
resolving one batch, the configuration followed by the action, over the system variables and the
outputs. The outputs make no difference to the configuration, and it does not matter which of the
outputs and the resolved configuration lies over the other.
-/

namespace Templating

/-- The configuration shares no name with the action or the outputs, and reads none of theirs. All
of them may hide system variables, and the action may hide outputs. -/
structure Layers.Apart (tokenizer : Tokenizer) (layers : Layers) : Prop where
  config_action : ∀ name ∈ layers.config.names, name ∉ layers.action.names
  outputs_config : ∀ name ∈ layers.outputs.names, name ∉ layers.config.names
  config_reads : ∀ source raw names, layers.config.get? source = some raw →
    raw.references tokenizer = .ok names →
      ∀ target ∈ names, target ∉ layers.action.names ∧ target ∉ layers.outputs.names

theorem Layers.Apart.precedes {tokenizer : Tokenizer} {layers : Layers}
    (apart : layers.Apart tokenizer) :
    Bindings.Precedes tokenizer layers.config layers.action where
  apart := apart.config_action
  unread source raw names found read target reads :=
    (apart.config_reads source raw names found read target reads).1

namespace Engine

variable {engine : Engine} {layers : Layers} {system first : Bindings}
  {cancellation : Cancellation}

/-- Resolving layers is resolving the configuration, and then the action in its own scope. -/
theorem resolveLayers_eq_ok_iff {out : Bindings} :
    (engine.resolveLayers cancellation layers).outcome = .ok out ↔ ∃ first second,
      (engine.resolve cancellation (engine.systemScope layers.system) layers.config).outcome =
        .ok first ∧
      (engine.resolve
        (cancellation.after (engine.resolve cancellation (engine.systemScope layers.system)
          layers.config).calls)
        (actionScope (engine.systemScope layers.system) first layers.outputs)
          layers.action).outcome = .ok second ∧
      out = first.extend second := by
  rw [resolveLayers, Traced.andThen_outcome, Outcome.bind_eq_ok_iff]
  constructor
  · rintro ⟨first, resolved, later⟩
    obtain ⟨second, resolvedAction, same⟩ := Outcome.map_eq_ok_iff.mp later
    exact ⟨first, second, resolved, resolvedAction, same.symm⟩
  · rintro ⟨first, second, resolved, resolvedAction, same⟩
    exact ⟨first, resolved, Outcome.map_eq_ok_iff.mpr ⟨second, resolvedAction, same.symm⟩⟩

theorem resolveLayers_ok_iff {out : Bindings} :
    (engine.resolveLayers .ignored layers).outcome = .ok out ↔ ∃ first second,
      (engine.resolve .ignored (engine.systemScope layers.system) layers.config).outcome =
        .ok first ∧
      (engine.resolve .ignored
        (actionScope (engine.systemScope layers.system) first layers.outputs)
          layers.action).outcome = .ok second ∧
      out = first.extend second :=
  resolveLayers_eq_ok_iff

/-- Outputs that the configuration does not read make no difference to it. -/
theorem resolve_config_extend_outputs (apart : layers.Apart engine.tokenizer) :
    engine.resolve cancellation (system.extend layers.outputs) layers.config =
      engine.resolve cancellation system layers.config := by
  apply resolve_eq_of_agreeOn_missing
  intro graph built name missing
  obtain ⟨source, raw, names, found, read, reads, -⟩ :=
    (Graph.mem_missing_build_iff built).mp missing
  have unread := (apart.config_reads source raw names found read name reads).2
  exact NameMap.get?_extend_of_not_mem unread

/-- The outputs may lie under the resolved configuration as well as over it. -/
theorem resolve_actionScope (apart : layers.Apart engine.tokenizer)
    (names : first.names = layers.config.names) :
    engine.resolve cancellation (actionScope system first layers.outputs) layers.action =
      engine.resolve cancellation ((system.extend layers.outputs).extend first) layers.action := by
  apply resolve_eq_of_agreeOn_missing
  intro graph built name _
  by_cases output : name ∈ layers.outputs.names
  · have absent : name ∉ first.names := names ▸ apart.outputs_config name output
    rw [actionScope, NameMap.get?_extend_of_mem output, NameMap.get?_extend_of_not_mem absent,
      NameMap.get?_extend_of_mem output]
  · rw [actionScope, NameMap.get?_extend_of_not_mem output, NameMap.get?_extend,
      NameMap.get?_extend, NameMap.get?_extend_of_not_mem output]

/-- Layers that do not interfere are resolved exactly when the entries of the configuration followed
by those of the action are, as one batch over the system variables and the outputs, and to the same
values in the same order. -/
theorem resolveLayers_eq_resolve_extend (apart : layers.Apart engine.tokenizer) :
    (layers.config.extend layers.action).entries =
      layers.config.entries ++ layers.action.entries ∧
    ∀ out, (engine.resolveLayers .ignored layers).outcome = .ok out ↔
      (engine.resolve .ignored ((engine.systemScope layers.system).extend layers.outputs)
        (layers.config.extend layers.action)).outcome = .ok out := by
  refine ⟨NameMap.entries_extend apart.config_action, fun out => ?_⟩
  rw [resolveLayers_ok_iff, resolve_extend_iff apart.precedes,
    resolve_config_extend_outputs apart]
  constructor
  · rintro ⟨first, second, resolved, resolvedAction, same⟩
    rw [resolve_actionScope apart (solves_of_resolve resolved).1] at resolvedAction
    exact ⟨first, second, resolved, resolvedAction, same⟩
  · rintro ⟨first, second, resolved, resolvedAction, same⟩
    rw [← resolve_actionScope apart (solves_of_resolve resolved).1] at resolvedAction
    exact ⟨first, second, resolved, resolvedAction, same⟩

/-- A configuration that hides a system variable, and an action that hides an output and reads the
configuration. -/
theorem resolveLayers_eq_resolve_extend_shadowing :
    let engine : Engine := ⟨.empty, {}, .epoch⟩
    let layers : Layers :=
      { system := .ofPairs [("zone", .string "eu"), ("host", .string "stale")]
        config := .ofPairs [("host", .string "\x7b\x7b zone \x7d\x7d.local")]
        action := .ofPairs [("path", .string "/srv/\x7b\x7b host \x7d\x7d"), ("tag", .int 2)]
        outputs := .ofPairs [("tag", .int 1)] }
    let out : Bindings := .ofPairs [("host", .string "eu.local"),
      ("path", .string "/srv/eu.local"), ("tag", .int 2)]
    layers.Apart engine.tokenizer ∧
      (engine.resolve .ignored ((engine.systemScope layers.system).extend layers.outputs)
        (layers.config.extend layers.action)).outcome = .ok out ∧
      (engine.resolveLayers .ignored layers).outcome = .ok out := by
  intro engine layers out
  have readHost : engine.tokenizer.tokenize "\x7b\x7b zone \x7d\x7d.local" =
      .ok [.plain "zone", .text ".local"] :=
    Tokenizer.tokenize_around [] " zone ".toList ".local".toList (by decide) (by decide) rfl rfl
  have readPath : engine.tokenizer.tokenize "/srv/\x7b\x7b host \x7d\x7d" =
      .ok [.text "/srv/", .plain "host"] :=
    Tokenizer.tokenize_around "/srv/".toList " host ".toList [] (by decide) (by decide) rfl rfl
  have apart : layers.Apart engine.tokenizer := by
    refine ⟨by decide, by decide, ?_⟩
    intro source raw names found read
    obtain ⟨rfl, rfl⟩ : source = "host" ∧ raw = .string "\x7b\x7b zone \x7d\x7d.local" := by
      have entry := NameMap.mem_entries_iff.mpr found
      cases List.mem_singleton.mp entry
      exact ⟨rfl, rfl⟩
    cases (Value.references_string readHost).symm.trans read
    decide
  have reads : Value.Reads engine.tokenizer (layers.config.extend layers.action).entries
      [["zone"], ["host"], []] :=
    .cons (Value.references_string readHost)
      (.cons (Value.references_string readPath) (.cons rfl .nil))
  have ordered : (Graph.ofReads (layers.config.extend layers.action)
      [["zone"], ["host"], []]).topologicalOrder = .ok ["host", "path"] := rfl
  have host : (layers.config.extend layers.action).get? "host" =
      some (.string "\x7b\x7b zone \x7d\x7d.local") := rfl
  have path : (layers.config.extend layers.action).get? "path" =
      some (.string "/srv/\x7b\x7b host \x7d\x7d") := rfl
  have flat : (engine.resolve .ignored ((engine.systemScope layers.system).extend layers.outputs)
      (layers.config.extend layers.action)).outcome = .ok out := by
    rw [resolve_of_reads reads ordered]
    simp only [resolveInOrder, host, path, resolveValue, resolveTemplate, readHost, readPath]
    rfl
  exact ⟨apart, flat, ((resolveLayers_eq_resolve_extend apart).2 out).mpr flat⟩

end Engine

end Templating
