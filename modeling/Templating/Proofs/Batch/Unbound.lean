import Templating.Proofs.Batch.Run
import Templating.Proofs.Evaluation.Unbound

/-!
# What a batch does not find

When a batch fails because a variable was not found, the variable is neither in the base nor in the
batch, and the graph reports it as missing. All along a run the scope has the variables of the base
and the entries of the batch but those to come, and no entry reads one of these.
-/

namespace Templating.Engine

variable {engine : Engine} {base batch scope : Bindings} {graph : Graph}
  {order before after pending rest : List String} {cancellation : Cancellation}
  {name : String} {raw : Value}

/-- The scope of a run has what the base has and the entries of the batch but those to come. -/
structure Covers (base batch : Bindings) (pending : List String) (scope : Bindings) : Prop where
  base : ∀ name ∈ base.names, name ∈ scope.names
  batch : ∀ name ∈ batch.names, name ∉ pending → name ∈ scope.names

namespace Covers

theorem start (sorted : graph.IsTopological order) :
    Covers base batch order (startScope base batch graph) where
  base := by
    intro name member
    obtain ⟨value, found⟩ := NameMap.mem_names_iff.mp member
    rw [NameMap.mem_names_iff, get?_startScope]
    split
    · exact ⟨value, found⟩
    · cases batch.get? name with
      | none => exact ⟨value, found⟩
      | some own => exact ⟨own, rfl⟩
  batch := by
    intro name member outside
    obtain ⟨raw, found⟩ := NameMap.mem_names_iff.mp member
    rw [NameMap.mem_names_iff, get?_startScope_of_not_mem sorted outside, found]
    exact ⟨raw, rfl⟩

theorem insert (covers : Covers base batch (name :: rest) scope) (value : Value) :
    Covers base batch rest (scope.insert name value) where
  base other member := NameMap.mem_names_insert.mpr (.inr (covers.base other member))
  batch other member outside := by
    rw [NameMap.mem_names_insert]
    by_cases same : other = name
    · exact .inl same
    · refine .inr (covers.batch other member fun later => ?_)
      exact (List.mem_cons.mp later).elim same outside

end Covers

/-- If a variable was not found, neither the base nor the batch has it, and the graph knows. -/
def NotFoundOutside (base batch : Bindings) (graph : Graph) (error : TemplateError) : Prop :=
  ∀ name, error.root = .variableNotFound name →
    name ∉ base.names ∧ name ∉ batch.names ∧ name ∈ graph.missing

/-- What an entry does not find is outside, since the entries that it reads are there by now. -/
theorem notFoundOutside_resolveValue (built : Graph.build engine.tokenizer batch = .ok graph)
    (sorted : graph.IsTopological order) (split : order = before ++ name :: after)
    (found : batch.get? name = some raw) (covers : Covers base batch (name :: after) scope) :
    (engine.resolveValue scope raw).FailsOnly (NotFoundOutside base batch graph) := by
  obtain ⟨names, read⟩ := Graph.references_of_build built found
  refine (unbound_resolveValue raw read).mono fun error unbound target notFound => ?_
  obtain ⟨reads, absent⟩ := unbound target notFound
  have outOfScope : target ∉ scope.names := NameMap.get?_eq_none_iff.mp absent
  have settled := sorted.not_mem_of_reads built split found read reads
  have outOfBatch : target ∉ batch.names := fun inside =>
    outOfScope (covers.batch target inside settled)
  have known := Graph.mem_missing_or_mem_names built found read reads
  exact ⟨fun inside => outOfScope (covers.base target inside), outOfBatch,
    known.resolve_right outOfBatch⟩

theorem notFoundOutside_resolveInOrder (built : Graph.build engine.tokenizer batch = .ok graph)
    (sorted : graph.IsTopological order) (split : order = before ++ pending)
    (covers : Covers base batch pending scope) :
    (engine.resolveInOrder batch cancellation scope pending).FailsOnly
      (NotFoundOutside base batch graph) := by
  -- The names still to come are all that the scope may lack; each step takes one of them off.
  induction pending generalizing before scope cancellation with
  | nil => exact Traced.failsOnly_ok scope
  | cons name rest ih =>
      have inOrder : name ∈ order := split ▸ List.mem_append_right before List.mem_cons_self
      obtain ⟨raw, found⟩ := sorted.get?_of_mem built inOrder
      have split' : order = before ++ [name] ++ rest := by
        rw [split, List.append_cons]
      cases running : cancellation.stops with
      | true =>
          rw [resolveInOrder, running, if_pos rfl]
          refine Traced.failsOnly_fail ?_
          rintro _ ⟨⟩
      | false =>
          rw [resolveInOrder_cons rest running found]
          have own := notFoundOutside_resolveValue built sorted split found covers
          refine (own.mapError ?_).andThen fun value => ih split' (covers.insert value)
          exact fun error outside => outside

/-- A variable that a batch reports as not found is in neither the base nor the batch, and it is one
of the names that the graph of the batch has as missing. -/
theorem resolve_variableNotFound {error : TemplateError}
    (failed : (engine.resolve cancellation base batch).outcome = .error error)
    (notFound : error.root = .variableNotFound name) :
    name ∉ base.names ∧ name ∉ batch.names ∧
      ∃ graph, Graph.build engine.tokenizer batch = .ok graph ∧ name ∈ graph.missing := by
  rcases resolve_eq_fail_or_order engine batch with
    ⟨refusal, early, fails, -⟩ | ⟨graph, order, built, ordered⟩
  · rw [fails] at failed
    cases failed
    cases early <;> cases notFound
  · rw [resolve_eq_of_order built ordered] at failed
    have sorted := Graph.isTopological_of_topologicalOrder ordered
    have split : order = [] ++ order := rfl
    have start : Covers base batch order (startScope base batch graph) := .start sorted
    obtain ⟨notInBase, notInBatch, missing⟩ :=
      notFoundOutside_resolveInOrder built sorted split start error
        (Outcome.map_eq_error_iff.mp failed) name notFound
    exact ⟨notInBase, notInBatch, graph, built, missing⟩

/-- A variable in a nested map, which is nil to its filter and is then found to be missing. -/
theorem resolve_variableNotFound_late :
    let registry : Registry := .ofPairs [("keep", .transform fun value _ => .ok value)]
    let engine : Engine := ⟨registry, {}, .epoch⟩
    let base : Bindings := .ofPairs [("zone", .string "eu")]
    let batch : Bindings := .ofPairs [("host", .string "\x7b\x7b zone \x7d\x7d"),
      ("note", .map [("by", .string "\x7b\x7b user | keep \x7d\x7d")])]
    let error : TemplateError := .inVariable "note" (.inVariable "by" (.variableNotFound "user"))
    (engine.resolve .ignored base batch).outcome = .error error ∧
      "user" ∉ base.names ∧ "user" ∉ batch.names ∧
      ∃ graph, Graph.build engine.tokenizer batch = .ok graph ∧ "user" ∈ graph.missing := by
  intro registry engine base batch error
  have readHost : engine.tokenizer.tokenize "\x7b\x7b zone \x7d\x7d" = .ok [.plain "zone"] :=
    Tokenizer.tokenize_single " zone ".toList (by decide) (by decide) rfl rfl
  have readNote : engine.tokenizer.tokenize "\x7b\x7b user | keep \x7d\x7d" =
      .ok [.filtered "user | keep" ⟨"user", [⟨"keep", []⟩]⟩] :=
    Tokenizer.tokenize_single " user | keep ".toList (by decide) (by decide) rfl rfl
  have host : batch.get? "host" = some (.string "\x7b\x7b zone \x7d\x7d") := rfl
  have note : batch.get? "note" =
      some (.map [("by", .string "\x7b\x7b user | keep \x7d\x7d")]) := rfl
  have readsNote : Value.Reads engine.tokenizer
      [("by", .string "\x7b\x7b user | keep \x7d\x7d")] [["user"]] :=
    .cons (Value.references_string readNote) .nil
  have reads : Value.Reads engine.tokenizer batch.entries [["zone"], ["user"]] :=
    .cons (Value.references_string readHost) (.cons (Value.references_map readsNote) .nil)
  have ordered : (Graph.ofReads batch [["zone"], ["user"]]).topologicalOrder =
      .ok ["host", "note"] := rfl
  have failed : (engine.resolve .ignored base batch).outcome = .error error := by
    rw [resolve_of_reads reads ordered]
    simp only [resolveInOrder, host, note, resolveValue, resolveEntries, resolveTemplate, readHost,
      readNote]
    rfl
  exact ⟨failed, resolve_variableNotFound failed rfl⟩

end Templating.Engine
