import Templating.Proofs.Batch.Run
import Templating.Proofs.Template.Scan

/-!
# What a batch takes from its base

A batch looks into its base only at the names that its graph reports as missing. Runs over two bases
that agree there go side by side: their scopes may differ as long as they are alike for the entries
to come, that is at the missing names and at the names of the batch that have their value by now. A
variable of the base that the batch defines itself stays in the scope until its entry is evaluated,
and nobody reads it.
-/

namespace Templating.Engine

variable {engine : Engine} {batch first second : Bindings} {graph : Graph}
  {order before after pending rest : List String} {cancellation : Cancellation} {name : String}
  {raw : Value}

/-- Both scopes have the same value, or none, under each name that an entry to come may read. -/
def AlikeFor (graph : Graph) (batch : Bindings) (pending : List String)
    (first second : Bindings) : Prop :=
  ∀ name, name ∈ graph.missing ∨ name ∈ batch.names → name ∉ pending →
    first.get? name = second.get? name

namespace AlikeFor

/-- Bases that agree on what is missing start alike, since the batch gives the rest. -/
theorem start (sorted : graph.IsTopological order)
    (agree : Bindings.AgreeOn graph.missing first second) :
    AlikeFor graph batch order (startScope first batch graph) (startScope second batch graph) := by
  intro name known outside
  rw [get?_startScope_of_not_mem sorted outside, get?_startScope_of_not_mem sorted outside]
  rcases known with missing | inside
  · rw [agree name missing]
  · obtain ⟨raw, found⟩ := NameMap.mem_names_iff.mp inside
    rw [found, Option.some_or, Option.some_or]

theorem insert (alike : AlikeFor graph batch (name :: rest) first second) (value : Value) :
    AlikeFor graph batch rest (first.insert name value) (second.insert name value) := by
  intro other known outside
  by_cases same : other = name
  · rw [same, NameMap.get?_insert_self, NameMap.get?_insert_self]
  · rw [NameMap.get?_insert_of_ne same, NameMap.get?_insert_of_ne same]
    apply alike other known
    intro member
    rcases List.mem_cons.mp member with here | later
    · exact same here
    · exact outside later

/-- An entry has the same outcome and makes the same calls in scopes that are alike for it and those
after it. -/
theorem resolveValue_eq (alike : AlikeFor graph batch (name :: after) first second)
    (built : Graph.build engine.tokenizer batch = .ok graph) (sorted : graph.IsTopological order)
    (split : order = before ++ name :: after) (found : batch.get? name = some raw) :
    engine.resolveValue first raw = engine.resolveValue second raw := by
  obtain ⟨names, read⟩ := Graph.references_of_build built found
  refine resolveValue_agreeOn raw read fun target reads => ?_
  have known := Graph.mem_missing_or_mem_names built found read reads
  exact alike target known (sorted.not_mem_of_reads built split found read reads)

/-- Scopes that are alike at the end hold the same results. -/
theorem restrictTo_eq (alike : AlikeFor graph batch [] first second) :
    batch.restrictTo first = batch.restrictTo second :=
  NameMap.restrictTo_congr fun name member => alike name (.inr member) List.not_mem_nil

end AlikeFor

/-- Runs in scopes that are alike for the entries to come have the same results, the same error and
the same calls. -/
theorem resolveInOrder_alikeFor (built : Graph.build engine.tokenizer batch = .ok graph)
    (sorted : graph.IsTopological order) (split : order = before ++ pending)
    (alike : AlikeFor graph batch pending first second) :
    (engine.resolveInOrder batch cancellation first pending).map batch.restrictTo =
      (engine.resolveInOrder batch cancellation second pending).map batch.restrictTo := by
  induction pending generalizing before first second cancellation with
  | nil => exact congrArg Traced.ok alike.restrictTo_eq
  | cons name rest ih =>
      have inOrder : name ∈ order := split ▸ List.mem_append_right before List.mem_cons_self
      obtain ⟨raw, found⟩ := sorted.get?_of_mem built inOrder
      have split' : order = before ++ [name] ++ rest := by
        rw [split, List.append_cons]
      cases running : cancellation.stops with
      | true => simp only [resolveInOrder, running, if_true]
      | false =>
          rw [resolveInOrder_cons rest running found, resolveInOrder_cons rest running found,
            alike.resolveValue_eq built sorted split found]
          simp only [Traced.map_andThen]
          exact congrArg _ (funext fun value => ih split' (alike.insert value))

theorem resolve_eq_of_agreeOn_missing
    (agree : ∀ graph, Graph.build engine.tokenizer batch = .ok graph →
      Bindings.AgreeOn graph.missing first second) :
    engine.resolve cancellation first batch = engine.resolve cancellation second batch := by
  rcases resolve_eq_fail_or_order engine batch with
    ⟨error, -, fails, -⟩ | ⟨graph, order, built, ordered⟩
  · rw [fails, fails]
  · have sorted := Graph.isTopological_of_topologicalOrder ordered
    have start : AlikeFor graph batch order _ _ := .start sorted (agree graph built)
    have split : order = [] ++ order := rfl
    rw [resolve_eq_of_order built ordered, resolve_eq_of_order built ordered]
    exact resolveInOrder_alikeFor built sorted split start

/-- Two bases that agree on the names which the graph reports as missing give a batch the same
result or the same error, with the same calls. So do two bases that agree off the names of the
batch, since none of these is missing. -/
theorem resolve_reads_missing (engine : Engine) (cancellation : Cancellation) (batch : Bindings) :
    (∀ first second : Bindings,
      (∀ graph, Graph.build engine.tokenizer batch = .ok graph →
        Bindings.AgreeOn graph.missing first second) →
      engine.resolve cancellation first batch = engine.resolve cancellation second batch) ∧
    ∀ first second : Bindings, Bindings.AgreeOff batch.names first second →
      engine.resolve cancellation first batch = engine.resolve cancellation second batch := by
  constructor
  · intro first second agree
    exact resolve_eq_of_agreeOn_missing agree
  · intro first second agree
    apply resolve_eq_of_agreeOn_missing
    intro graph built
    apply agree.agreeOn
    intro name missing inside
    obtain ⟨-, -, -, -, -, -, absent⟩ := (Graph.mem_missing_build_iff built).mp missing
    exact absent inside

/-- Bases that differ at a name which the batch hides and at one which nobody reads. -/
theorem resolve_reads_missing_shadowed :
    let engine : Engine := ⟨.empty, {}, .epoch⟩
    let batch : Bindings := .ofPairs [("path", .string "\x7b\x7b host \x7d\x7d"),
      ("host", .string "\x7b\x7b zone \x7d\x7d")]
    let first : Bindings :=
      .ofPairs [("zone", .string "eu"), ("host", .string "stale"), ("spare", .nil)]
    let second : Bindings := .ofPairs [("host", .int 7), ("zone", .string "eu")]
    (∀ graph, Graph.build engine.tokenizer batch = .ok graph → graph.missing = ["zone"]) ∧
    engine.resolve .ignored first batch = engine.resolve .ignored second batch ∧
    engine.resolve .ignored (first.insert "host" .nil) batch =
      engine.resolve .ignored first batch := by
  intro engine batch first second
  have readPath : engine.tokenizer.tokenize "\x7b\x7b host \x7d\x7d" = .ok [.plain "host"] :=
    Tokenizer.tokenize_single " host ".toList (by decide) (by decide) rfl rfl
  have readHost : engine.tokenizer.tokenize "\x7b\x7b zone \x7d\x7d" = .ok [.plain "zone"] :=
    Tokenizer.tokenize_single " zone ".toList (by decide) (by decide) rfl rfl
  have reads : Value.Reads engine.tokenizer batch.entries [["host"], ["zone"]] :=
    .cons (Value.references_string readPath) (.cons (Value.references_string readHost) .nil)
  have missing : ∀ graph, Graph.build engine.tokenizer batch = .ok graph →
      graph.missing = ["zone"] := by
    intro graph built
    cases (Graph.build_of_reads reads).symm.trans built
    rfl
  obtain ⟨onMissing, offBatch⟩ := resolve_reads_missing engine .ignored batch
  refine ⟨missing, onMissing first second ?_, offBatch _ first ?_⟩
  · intro graph built name member
    rw [missing graph built] at member
    obtain rfl := List.mem_singleton.mp member
    rfl
  · intro name outside
    apply NameMap.get?_insert_of_ne
    rintro rfl
    exact outside (List.mem_cons_of_mem _ List.mem_cons_self)

end Templating.Engine
