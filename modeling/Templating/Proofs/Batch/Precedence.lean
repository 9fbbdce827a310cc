import Templating.Proofs.Batch.Layers

/-!
# Precedence of layers

The configuration is resolved before the action and the outputs come into play, so they make no
difference to it: neither to its error nor to the values that the action leaves in the result. The
templates of the action find the outputs first, then the resolved configuration and then the system
variables, with the current instant over one of its name. The result has the names of the
configuration and of the action, and no others.
-/

namespace Templating.Engine

variable {engine : Engine} {layers : Layers} {cancellation : Cancellation}
  {resolved acted out scope : Bindings} {name : String}

/-- What templates of the action find under a name that is not one of the action's own. -/
def visible (engine : Engine) (layers : Layers) (resolved : Bindings) (name : String) :
    Option Value :=
  (layers.outputs.get? name).or <| (resolved.get? name).or <|
    if engine.settings.injectNow = true ∧ name = nowName then some (.timestamp engine.now)
    else layers.system.get? name

theorem get?_systemScope (engine : Engine) (system : Bindings) (name : String) :
    (engine.systemScope system).get? name =
      if engine.settings.injectNow = true ∧ name = nowName then some (.timestamp engine.now)
      else system.get? name := by
  rw [systemScope]
  cases engine.settings.injectNow with
  | true => simp only [if_true, true_and, NameMap.get?_insert]
  | false => simp only [Bool.false_eq_true, if_false, false_and]

theorem get?_actionScope (engine : Engine) (layers : Layers) (resolved : Bindings)
    (name : String) :
    (actionScope (engine.systemScope layers.system) resolved layers.outputs).get? name =
      engine.visible layers resolved name := by
  rw [actionScope, NameMap.get?_extend, NameMap.get?_extend, get?_systemScope, visible]

theorem resolveLayers_of_config_error {error : TemplateError}
    (failed : (engine.resolve cancellation (engine.systemScope layers.system)
      layers.config).outcome = .error error) :
    (engine.resolveLayers cancellation layers).outcome = .error error := by
  rw [resolveLayers, Traced.andThen_of_error failed]

/-- A result of layers, and the results of the configuration and of the action that it is made
of. -/
structure Composed (engine : Engine) (cancellation : Cancellation) (layers : Layers)
    (resolved acted out : Bindings) : Prop where
  configures : (engine.resolve cancellation (engine.systemScope layers.system)
    layers.config).outcome = .ok resolved
  acts : (engine.resolve (cancellation.after (engine.resolve cancellation
      (engine.systemScope layers.system) layers.config).calls)
    (actionScope (engine.systemScope layers.system) resolved layers.outputs)
      layers.action).outcome = .ok acted
  whole : out = resolved.extend acted

theorem exists_composed (ran : (engine.resolveLayers cancellation layers).outcome = .ok out) :
    ∃ resolved acted, engine.Composed cancellation layers resolved acted out := by
  obtain ⟨resolved, acted, configures, acts, whole⟩ := resolveLayers_eq_ok_iff.mp ran
  exact ⟨resolved, acted, configures, acts, whole⟩

namespace Composed

theorem names_resolved (parts : engine.Composed cancellation layers resolved acted out) :
    resolved.names = layers.config.names :=
  (solves_of_resolve parts.configures).1

theorem names_acted (parts : engine.Composed cancellation layers resolved acted out) :
    acted.names = layers.action.names :=
  (solves_of_resolve parts.acts).1

/-- The configuration comes first, and then what only the action has. -/
theorem names (parts : engine.Composed cancellation layers resolved acted out) :
    out.names = layers.config.names ++
      layers.action.names.filter fun name => name ∉ layers.config.names := by
  have inOrder : (resolved.extend acted).names =
      resolved.names ++ acted.names.filter fun name => name ∉ resolved.names :=
    NameMap.names_extend_filter
  rw [parts.names_resolved, parts.names_acted] at inOrder
  rw [parts.whole, inOrder]

theorem mem_names (parts : engine.Composed cancellation layers resolved acted out)
    (member : name ∈ out.names) : name ∈ layers.config.names ∨ name ∈ layers.action.names := by
  rw [parts.names] at member
  exact (List.mem_append.mp member).imp_right List.mem_of_mem_filter

/-- The action lies over the configuration. -/
theorem get?_eq (parts : engine.Composed cancellation layers resolved acted out) (name : String) :
    out.get? name =
      if name ∈ layers.action.names then acted.get? name else resolved.get? name := by
  rw [parts.whole]
  split
  next member => exact NameMap.get?_extend_of_mem (parts.names_acted ▸ member)
  next fresh => exact NameMap.get?_extend_of_not_mem (parts.names_acted ▸ fresh)

theorem get?_of_action (parts : engine.Composed cancellation layers resolved acted out)
    (member : name ∈ layers.action.names) : out.get? name = acted.get? name := by
  rw [parts.get?_eq, if_pos member]

theorem get?_of_config (parts : engine.Composed cancellation layers resolved acted out)
    (fresh : name ∉ layers.action.names) : out.get? name = resolved.get? name := by
  rw [parts.get?_eq, if_neg fresh]

end Composed

/-- The action has the same results over every base that shows what is visible to it. -/
theorem resolve_action_of_visible
    (shows : ∀ name, name ∉ layers.action.names →
      scope.get? name = engine.visible layers resolved name) :
    engine.resolve cancellation scope layers.action =
      engine.resolve cancellation
        (actionScope (engine.systemScope layers.system) resolved layers.outputs)
          layers.action := by
  apply resolve_eq_of_agreeOn_missing
  intro graph built name missing
  obtain ⟨-, -, -, -, -, -, outside⟩ := (Graph.mem_missing_build_iff built).mp missing
  rw [shows name outside, get?_actionScope]

/-- An entry of the action has the value that its template comes to where the action shows its
results, and under all other names what is visible to it. -/
theorem Composed.resolveValue_of_visible {raw : Value}
    (parts : engine.Composed cancellation layers resolved acted out)
    (shows : ∀ name, name ∉ layers.action.names →
      scope.get? name = engine.visible layers resolved name)
    (own : ∀ name, name ∈ layers.action.names → scope.get? name = out.get? name)
    (found : layers.action.get? name = some raw) :
    ∃ value, out.get? name = some value ∧
      (engine.resolveValue scope raw).outcome = .ok value := by
  obtain ⟨value, place, comes⟩ := (solves_of_resolve parts.acts).2 name raw found
  have member : name ∈ layers.action.names := NameMap.mem_names_iff.mpr ⟨raw, found⟩
  refine ⟨value, (parts.get?_of_action member).trans place, ?_⟩
  rw [resolveValue_agreeOn_gathered raw, comes]
  intro target _
  by_cases inside : target ∈ layers.action.names
  · rw [own target inside, parts.get?_of_action inside,
      NameMap.get?_extend_of_mem (parts.names_acted ▸ inside)]
  · rw [shows target inside, NameMap.get?_extend_of_not_mem (parts.names_acted ▸ inside),
      get?_actionScope]

/-- Layers with the same system variables and the same configuration fail alike if the
configuration does, and they agree on the names of the configuration that neither action has. The
result has the names of the configuration and then the new ones of the action, each name of the
action with the value of the action, where templates look for the names outside it in the outputs,
then in the resolved configuration, and then among the system variables. -/
theorem resolveLayers_isolates_config (engine : Engine) (cancellation : Cancellation)
    (first second : Layers) (system : first.system = second.system)
    (config : first.config = second.config) :
    let configured :=
      engine.resolve cancellation (engine.systemScope first.system) first.config
    (∀ error, configured.outcome = .error error →
      (engine.resolveLayers cancellation first).outcome = .error error ∧
      (engine.resolveLayers cancellation second).outcome = .error error) ∧
    (∀ out other, (engine.resolveLayers cancellation first).outcome = .ok out →
      (engine.resolveLayers cancellation second).outcome = .ok other →
        ∀ name ∈ first.config.names, name ∉ first.action.names → name ∉ second.action.names →
          ∃ value, out.get? name = some value ∧ other.get? name = some value) ∧
    ∀ out, (engine.resolveLayers cancellation first).outcome = .ok out →
      out.names = first.config.names ++
        first.action.names.filter (fun name => name ∉ first.config.names) ∧
      (∀ name ∈ out.names, name ∈ first.config.names ∨ name ∈ first.action.names) ∧
      ∃ resolved acted : Bindings, configured.outcome = .ok resolved ∧
        (∀ name, out.get? name =
          if name ∈ first.action.names then acted.get? name else resolved.get? name) ∧
        ∀ scope : Bindings, (∀ name, name ∉ first.action.names →
            scope.get? name = engine.visible first resolved name) →
          (engine.resolve (cancellation.after configured.calls) scope first.action).outcome =
            .ok acted ∧
          ((∀ name, name ∈ first.action.names → scope.get? name = out.get? name) →
            ∀ name raw, first.action.get? name = some raw → ∃ value,
              out.get? name = some value ∧
                (engine.resolveValue scope raw).outcome = .ok value) := by
  intro configured
  have configuredSecond : engine.resolve cancellation (engine.systemScope second.system)
      second.config = configured := by
    rw [← system, ← config]
  refine ⟨fun error failed => ?_, fun out other ran ranOther name member fresh freshOther => ?_,
    fun out ran => ?_⟩
  · have failedSecond := (congrArg Traced.outcome configuredSecond).trans failed
    exact ⟨resolveLayers_of_config_error failed, resolveLayers_of_config_error failedSecond⟩
  · obtain ⟨resolved, acted, parts⟩ := exists_composed ran
    obtain ⟨resolved', acted', parts'⟩ := exists_composed ranOther
    have configures' : configured.outcome = .ok resolved' := by
      rw [← configuredSecond]
      exact parts'.configures
    cases parts.configures.symm.trans configures'
    obtain ⟨value, found⟩ := NameMap.mem_names_iff.mp (parts.names_resolved ▸ member)
    exact ⟨value, (parts.get?_of_config fresh).trans found,
      (parts'.get?_of_config freshOther).trans found⟩
  · obtain ⟨resolved, acted, parts⟩ := exists_composed ran
    refine ⟨parts.names, fun name => parts.mem_names, resolved, acted, parts.configures,
      parts.get?_eq, fun scope shows => ⟨?_, fun own name raw => ?_⟩⟩
    · rw [resolve_action_of_visible shows]
      exact parts.acts
    · exact parts.resolveValue_of_visible shows own

/-- Names that meet in all four layers, and a system variable that the current instant hides, beside
layers without an action. -/
theorem resolveLayers_isolates_config_collisions :
    let engine : Engine := ⟨.empty, {}, .epoch⟩
    let system : Bindings := .ofPairs [("now", .string "late"), ("host", .string "stale")]
    let config : Bindings := .ofPairs [("host", .string "\x7b\x7b zone \x7d\x7d.local"),
      ("zone", .string "eu"), ("tag", .int 1)]
    let action : Bindings := .ofPairs [("path", .string "/\x7b\x7b host \x7d\x7d"), ("tag", .int 2),
      ("at", .string "\x7b\x7b now \x7d\x7d")]
    let outputs : Bindings := .ofPairs [("tag", .nil), ("host", .string "out")]
    let first : Layers := ⟨system, config, action, outputs⟩
    let second : Layers := ⟨system, config, .empty, .empty⟩
    let out : Bindings := .ofPairs [("host", .string "eu.local"), ("zone", .string "eu"),
      ("tag", .int 2), ("path", .string "/out"), ("at", .timestamp .epoch)]
    let other : Bindings :=
      .ofPairs [("host", .string "eu.local"), ("zone", .string "eu"), ("tag", .int 1)]
    (engine.resolveLayers .ignored first).outcome = .ok out ∧
      (engine.resolveLayers .ignored second).outcome = .ok other ∧
      (∃ value, out.get? "host" = some value ∧ other.get? "host" = some value) ∧
      out.names = ["host", "zone", "tag", "path", "at"] ∧
      engine.visible first other "host" = some (.string "out") ∧
      engine.visible first other "now" = some (.timestamp .epoch) := by
  intro engine system config action outputs first second out other
  have readHost : engine.tokenizer.tokenize "\x7b\x7b zone \x7d\x7d.local" =
      .ok [.plain "zone", .text ".local"] :=
    Tokenizer.tokenize_around [] " zone ".toList ".local".toList (by decide) (by decide) rfl rfl
  have readZone : engine.tokenizer.tokenize "eu" = .ok [.text "eu"] := rfl
  have readPath : engine.tokenizer.tokenize "/\x7b\x7b host \x7d\x7d" =
      .ok [.text "/", .plain "host"] :=
    Tokenizer.tokenize_around "/".toList " host ".toList [] (by decide) (by decide) rfl rfl
  have readAt : engine.tokenizer.tokenize "\x7b\x7b now \x7d\x7d" = .ok [.plain "now"] :=
    Tokenizer.tokenize_single " now ".toList (by decide) (by decide) rfl rfl
  have configured : (engine.resolve .ignored (engine.systemScope system) config).outcome =
      .ok other := by
    have reads : Value.Reads engine.tokenizer config.entries [["zone"], [], []] :=
      .cons (Value.references_string readHost)
        (.cons (Value.references_string readZone) (.cons rfl .nil))
    have ordered : (Graph.ofReads config [["zone"], [], []]).topologicalOrder =
        .ok ["zone", "host"] := rfl
    have host : config.get? "host" = some (.string "\x7b\x7b zone \x7d\x7d.local") := rfl
    have zone : config.get? "zone" = some (.string "eu") := rfl
    rw [resolve_of_reads reads ordered]
    simp only [resolveInOrder, host, zone, resolveValue, resolveTemplate, readHost, readZone]
    rfl
  have acts : (engine.resolve .ignored (actionScope (engine.systemScope system) other outputs)
      action).outcome = .ok (.ofPairs [("path", .string "/out"), ("tag", .int 2),
        ("at", .timestamp .epoch)]) := by
    have reads : Value.Reads engine.tokenizer action.entries [["host"], [], ["now"]] :=
      .cons (Value.references_string readPath)
        (.cons rfl (.cons (Value.references_string readAt) .nil))
    have ordered : (Graph.ofReads action [["host"], [], ["now"]]).topologicalOrder =
        .ok ["path", "at"] := rfl
    have path : action.get? "path" = some (.string "/\x7b\x7b host \x7d\x7d") := rfl
    have at_ : action.get? "at" = some (.string "\x7b\x7b now \x7d\x7d") := rfl
    rw [resolve_of_reads reads ordered]
    simp only [resolveInOrder, path, at_, resolveValue, resolveTemplate, readPath, readAt]
    rfl
  have ran : (engine.resolveLayers .ignored first).outcome = .ok out :=
    resolveLayers_eq_ok_iff.mpr ⟨other, _, configured, acts, rfl⟩
  have ranSecond : (engine.resolveLayers .ignored second).outcome = .ok other :=
    resolveLayers_eq_ok_iff.mpr ⟨other, .empty, configured, rfl, rfl⟩
  obtain ⟨-, agree, made⟩ := resolveLayers_isolates_config engine .ignored first second rfl rfl
  exact ⟨ran, ranSecond, agree out other ran ranSecond "host" (by decide) (by decide) (by decide),
    (made out ran).1.trans (by decide), rfl, rfl⟩

end Templating.Engine
