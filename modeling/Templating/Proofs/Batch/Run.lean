import Templating.Proofs.Evaluation.Reads
import Templating.Proofs.Graph.Build
import Templating.Proofs.Graph.Search
import Templating.Proofs.Outcome

/-!
# Running a batch

A run evaluates the nodes of a batch in a topological order, so an entry never reads a name that is
still to come. Off the names to come, the scope of a run is the scope in which it ends, and it is
the base under any values that solve the batch. So a run that goes well ends in a solution, and a
batch that has a solution and an order is resolved to that solution.
-/

namespace Templating

/-- Both scopes have the same value, or none, under each name that is not among these. -/
def Bindings.AgreeOff (names : List String) (first second : Bindings) : Prop :=
  ∀ name, name ∉ names → first.get? name = second.get? name

theorem Bindings.AgreeOff.agreeOn {names reads : List String} {first second : Bindings}
    (agree : AgreeOff names first second) (apart : ∀ name ∈ reads, name ∉ names) :
    AgreeOn reads first second :=
  fun name member => agree name (apart name member)

/-- The errors of a batch that come before anything is evaluated. -/
inductive TemplateError.OfOrdering : TemplateError → Prop where
  | malformed (name : String) (place : Nat) (reason : Malformed) :
      OfOrdering (.inVariable name (.malformedTemplate place reason))
  | circular (chain : List String) : OfOrdering (.circularDependency chain)

namespace Graph.IsTopological

variable {graph : Graph} {tokenizer : Tokenizer} {batch : Bindings}
  {order before after names : List String} {name target : String} {raw : Value}

/-- Only entries of the batch are evaluated. -/
theorem get?_of_mem (sorted : graph.IsTopological order)
    (built : build tokenizer batch = .ok graph) (member : name ∈ order) :
    ∃ raw, batch.get? name = some raw := by
  have isNode : name ∈ graph.nodes := (sorted.mem_iff name).mp member
  obtain ⟨raw, found, -⟩ := (mem_nodes_build_iff built).mp isNode
  exact ⟨raw, found⟩

/-- No template can stand in an entry that is not evaluated. -/
theorem not_isTemplated (sorted : graph.IsTopological order)
    (built : build tokenizer batch = .ok graph) (found : batch.get? name = some raw)
    (outside : name ∉ order) : raw.isTemplated = false := by
  refine eq_false_of_ne_true fun templated => outside ?_
  exact (sorted.mem_iff name).mpr ((mem_nodes_build_iff built).mpr ⟨raw, found, templated⟩)

/-- What an entry reads stands before it in a topological order, or is no node. -/
theorem not_mem_of_reads (sorted : graph.IsTopological order)
    (built : build tokenizer batch = .ok graph) (split : order = before ++ name :: after)
    (found : batch.get? name = some raw) (read : raw.references tokenizer = .ok names)
    (reads : target ∈ names) : target ∉ name :: after := by
  intro later
  have inOrder : target ∈ order := split ▸ List.mem_append_right before later
  have isNode : target ∈ graph.nodes := (sorted.mem_iff target).mp inOrder
  obtain ⟨value, entry⟩ := sorted.get?_of_mem built inOrder
  have inBatch : target ∈ batch.names := NameMap.mem_names_iff.mpr ⟨value, entry⟩
  have edge : graph.Edge name target :=
    (edge_build_iff built).mpr ⟨raw, names, found, read, reads, inBatch⟩
  have early : target ∈ before := sorted.earlier before name after split target edge isNode
  have distinct : (before ++ name :: after).Nodup := split ▸ sorted.nodup
  exact List.disjoint_of_nodup_append distinct early later

end Graph.IsTopological

namespace Engine

variable {engine : Engine} {base batch scope final candidate : Bindings} {graph : Graph}
  {order before pending : List String} {cancellation : Cancellation} {name : String} {raw : Value}

/-- Each entry of the batch has for value what its own template comes to, where the values of the
candidate lie over the base. -/
def Solves (engine : Engine) (base batch candidate : Bindings) : Prop :=
  ∀ name raw, batch.get? name = some raw → ∃ value, candidate.get? name = some value ∧
    (engine.resolveValue (base.extend candidate) raw).outcome = .ok value

theorem resolveValue_of_not_isTemplated (plain : raw.isTemplated = false) :
    engine.resolveValue scope raw = .ok raw := by
  cases raw with
  | string _ => cases plain
  | map _ => cases plain
  | _ => rfl

/-- An entry comes to the same in two scopes that agree on all names but it and those after it. -/
theorem resolveValue_agreeOff {first second : Bindings} {after : List String}
    (built : Graph.build engine.tokenizer batch = .ok graph) (sorted : graph.IsTopological order)
    (split : order = before ++ name :: after) (found : batch.get? name = some raw)
    (agree : Bindings.AgreeOff (name :: after) first second) :
    engine.resolveValue first raw = engine.resolveValue second raw := by
  obtain ⟨names, read⟩ := Graph.references_of_build built found
  refine resolveValue_agreeOn raw read (agree.agreeOn fun target reads => ?_)
  exact sorted.not_mem_of_reads built split found read reads

/-! ## The scope at the start -/

theorem get?_foldl_startScope (entries : List (String × Value)) (scope : Bindings)
    (distinct : (Entries.names entries).Nodup) :
    (entries.foldl (fun scope entry =>
        if graph.contains entry.1 then scope else scope.insert entry.1 entry.2) scope).get? name =
      if graph.contains name then scope.get? name
      else (Entries.get? name entries).or (scope.get? name) := by
  induction entries generalizing scope with
  | nil => simp [Entries.get?]
  | cons entry rest ih =>
      obtain ⟨key, value⟩ := entry
      obtain ⟨fresh, tail⟩ := List.nodup_cons.mp distinct
      rw [List.foldl_cons, ih _ tail]
      by_cases same : key = name
      · subst same
        rw [Entries.get?_eq_none_iff.mpr fresh, Entries.get?, if_pos rfl]
        by_cases isNode : graph.contains key = true
        · simp only [isNode, if_true]
        · rw [if_neg isNode, if_neg isNode, if_neg isNode, NameMap.get?_insert_self,
            Option.none_or, Option.some_or]
      · rw [Entries.get?, if_neg same]
        by_cases isNode : graph.contains key = true
        · rw [if_pos isNode]
        · rw [if_neg isNode, NameMap.get?_insert_of_ne (Ne.symm same)]

theorem get?_startScope :
    (startScope base batch graph).get? name =
      if graph.contains name then base.get? name else (batch.get? name).or (base.get? name) :=
  get?_foldl_startScope batch.entries base batch.nodup

theorem get?_startScope_of_not_mem (sorted : graph.IsTopological order) (outside : name ∉ order) :
    (startScope base batch graph).get? name = (batch.get? name).or (base.get? name) := by
  have notContained : ¬ graph.contains name = true := fun contained =>
    outside ((sorted.mem_iff name).mpr (Graph.contains_iff_mem_nodes.mp contained))
  rw [get?_startScope, if_neg notContained]

/-- The base under a solution starts like the run. -/
theorem Solves.agreeOff_startScope (solved : engine.Solves base batch candidate)
    (within : ∀ name ∈ candidate.names, name ∈ batch.names)
    (built : Graph.build engine.tokenizer batch = .ok graph) (sorted : graph.IsTopological order) :
    Bindings.AgreeOff order (startScope base batch graph) (base.extend candidate) := by
  intro name outside
  rw [get?_startScope_of_not_mem sorted outside]
  cases found : batch.get? name with
  | none =>
      have absent : name ∉ candidate.names :=
        fun member => NameMap.get?_eq_none_iff.mp found (within name member)
      rw [NameMap.get?_extend_of_not_mem absent, Option.none_or]
  | some raw =>
      obtain ⟨value, place, comes⟩ := solved name raw found
      rw [resolveValue_of_not_isTemplated (sorted.not_isTemplated built found outside)] at comes
      cases comes
      rw [NameMap.get?_extend_of_some place, Option.some_or]

/-! ## One entry after the other -/

theorem resolveInOrder_cons (rest : List String) (running : cancellation.stops = false)
    (found : batch.get? name = some raw) :
    engine.resolveInOrder batch cancellation scope (name :: rest) =
      let entry := (engine.resolveValue scope raw).mapError (.inVariable name)
      entry.andThen fun value =>
        engine.resolveInOrder batch (cancellation.after entry.calls) (scope.insert name value)
          rest := by
  rw [resolveInOrder, running, if_neg Bool.false_ne_true, found]

theorem running_of_resolveInOrder {rest : List String}
    (ran : (engine.resolveInOrder batch cancellation scope (name :: rest)).outcome = .ok final) :
    cancellation.stops = false := by
  rw [resolveInOrder] at ran
  split at ran
  next => cases ran
  next running => exact eq_false_of_ne_true running

/-- A run that goes well leaves every name but those to come as it is, and gives each of these the
value that its own template has in the scope at the end. -/
theorem resolveInOrder_sound (built : Graph.build engine.tokenizer batch = .ok graph)
    (sorted : graph.IsTopological order) (split : order = before ++ pending)
    (ran : (engine.resolveInOrder batch cancellation scope pending).outcome = .ok final) :
    Bindings.AgreeOff pending scope final ∧
      ∀ name ∈ pending, ∀ raw, batch.get? name = some raw → ∃ value,
        final.get? name = some value ∧ (engine.resolveValue final raw).outcome = .ok value := by
  induction pending generalizing before scope cancellation with
  | nil =>
      cases ran
      exact ⟨fun _ _ => rfl, fun _ member => absurd member List.not_mem_nil⟩
  | cons name rest ih =>
      have inOrder : name ∈ order := split ▸ List.mem_append_right before List.mem_cons_self
      obtain ⟨raw, found⟩ := sorted.get?_of_mem built inOrder
      have split' : order = before ++ [name] ++ rest := by
        rw [split, List.append_cons]
      have distinct : (before ++ name :: rest).Nodup := split ▸ sorted.nodup
      have fresh : name ∉ rest := (List.nodup_cons.mp distinct.of_append_right).1
      rw [resolveInOrder_cons rest (running_of_resolveInOrder ran) found,
        Traced.andThen_outcome] at ran
      obtain ⟨value, own, ran'⟩ := Outcome.bind_eq_ok_iff.mp ran
      have comes := Outcome.mapError_eq_ok_iff.mp own
      obtain ⟨kept, later⟩ := ih split' ran'
      have agree : Bindings.AgreeOff (name :: rest) scope final := by
        intro other outside
        obtain ⟨different, notLater⟩ := not_or.mp (List.mem_cons.not.mp outside)
        rw [← kept other notLater, NameMap.get?_insert_of_ne different]
      have place : final.get? name = some value := by
        rw [← kept name fresh, NameMap.get?_insert_self]
      refine ⟨agree, ?_⟩
      intro other member raw' found'
      rcases List.mem_cons.mp member with rfl | inRest
      · rw [found] at found'
        cases found'
        refine ⟨value, place, ?_⟩
        rw [← resolveValue_agreeOff built sorted split found agree]
        exact comes
      · exact later other inRest raw' found'

/-- A run in a scope that agrees with a solution off the names to come ends in the solution. -/
theorem resolveInOrder_complete (built : Graph.build engine.tokenizer batch = .ok graph)
    (sorted : graph.IsTopological order) (solved : engine.Solves base batch candidate)
    (split : order = before ++ pending)
    (agree : Bindings.AgreeOff pending scope (base.extend candidate)) :
    ∃ final, (engine.resolveInOrder batch .ignored scope pending).outcome = .ok final ∧
      ∀ name, final.get? name = (base.extend candidate).get? name := by
  induction pending generalizing before scope with
  | nil => exact ⟨scope, rfl, fun name => agree name List.not_mem_nil⟩
  | cons name rest ih =>
      have inOrder : name ∈ order := split ▸ List.mem_append_right before List.mem_cons_self
      obtain ⟨raw, found⟩ := sorted.get?_of_mem built inOrder
      have split' : order = before ++ [name] ++ rest := by
        rw [split, List.append_cons]
      obtain ⟨value, place, comes⟩ := solved name raw found
      rw [← resolveValue_agreeOff built sorted split found agree] at comes
      have later : Bindings.AgreeOff rest (scope.insert name value) (base.extend candidate) := by
        intro other outside
        by_cases same : other = name
        · subst same
          rw [NameMap.get?_insert_self, NameMap.get?_extend_of_some place]
        · rw [NameMap.get?_insert_of_ne same]
          exact agree other (fun member => (List.mem_cons.mp member).elim same outside)
      obtain ⟨final, ran, ends⟩ := ih split' later
      refine ⟨final, ?_, ends⟩
      rw [resolveInOrder_cons rest rfl found, Traced.andThen_outcome]
      refine Outcome.bind_eq_ok_iff.mpr ⟨value, Outcome.mapError_eq_ok_iff.mpr comes, ?_⟩
      exact ran

/-! ## The whole batch -/

theorem resolve_eq_of_order (built : Graph.build engine.tokenizer batch = .ok graph)
    (ordered : graph.topologicalOrder = .ok order) :
    engine.resolve cancellation base batch =
      (engine.resolveInOrder batch (engine.polling cancellation) (startScope base batch graph)
        order).map fun scope => batch.restrictTo scope := by
  rw [resolve, built]
  simp only [ordered]

theorem resolve_eq_fail_of_order {error : TemplateError}
    (built : Graph.build engine.tokenizer batch = .ok graph)
    (failed : graph.topologicalOrder = .error error) :
    engine.resolve cancellation base batch = .fail error := by
  rw [resolve, built]
  simp only [failed]

/-- A batch is resolved along the order of the graph that the names in its entries make. -/
theorem resolve_of_reads {names : List (List String)}
    (reads : Value.Reads engine.tokenizer batch.entries names)
    (ordered : (Graph.ofReads batch names).topologicalOrder = .ok order) :
    engine.resolve cancellation base batch =
      (engine.resolveInOrder batch (engine.polling cancellation)
        (startScope base batch (Graph.ofReads batch names)) order).map fun scope =>
          batch.restrictTo scope :=
  resolve_eq_of_order (Graph.build_of_reads reads) ordered

/-- A batch has a graph and an order, or else it fails, whatever the base and the flag are. -/
theorem resolve_eq_fail_or_order (engine : Engine) (batch : Bindings) :
    (∃ error : TemplateError, error.OfOrdering ∧
      (∀ cancellation base, engine.resolve cancellation base batch = .fail error) ∧
      ∀ graph order, Graph.build engine.tokenizer batch = .ok graph →
        graph.topologicalOrder ≠ .ok order) ∨
    ∃ graph order, Graph.build engine.tokenizer batch = .ok graph ∧
      graph.topologicalOrder = .ok order := by
  cases built : Graph.build engine.tokenizer batch with
  | error refusal =>
      obtain ⟨-, name, -, place, reason, rfl⟩ := Graph.malformed_of_build built
      refine .inl ⟨_, .malformed name place reason, fun cancellation base => ?_, ?_⟩
      · rw [resolve, built]
      · rintro graph order ⟨⟩
  | ok graph =>
      cases ordered : graph.topologicalOrder with
      | error cycle =>
          obtain ⟨chain, rfl, -⟩ := Graph.isCycle_of_topologicalOrder ordered
          refine .inl ⟨_, .circular chain, fun _ _ => resolve_eq_fail_of_order built ordered, ?_⟩
          rintro graph order ⟨⟩
          simp [ordered]
      | ok order => exact .inr ⟨graph, order, rfl, ordered⟩

/-- A batch is resolved along the order of its graph. -/
theorem exists_order_of_resolve {out : Bindings}
    (resolved : (engine.resolve cancellation base batch).outcome = .ok out) :
    ∃ graph order, Graph.build engine.tokenizer batch = .ok graph ∧
      graph.topologicalOrder = .ok order := by
  rcases resolve_eq_fail_or_order engine batch with ⟨error, -, fails, -⟩ | ordered
  · rw [fails] at resolved
    cases resolved
  · exact ordered

/-- The scope in which a run ends gives each entry the value of its own template, and leaves the
base as it is elsewhere. -/
theorem ends_of_resolveInOrder (built : Graph.build engine.tokenizer batch = .ok graph)
    (sorted : graph.IsTopological order)
    (ran : (engine.resolveInOrder batch cancellation (startScope base batch graph) order).outcome =
      .ok final) :
    (∀ name raw, batch.get? name = some raw → ∃ value, final.get? name = some value ∧
      (engine.resolveValue final raw).outcome = .ok value) ∧
    ∀ name, name ∉ batch.names → final.get? name = base.get? name := by
  have split : order = [] ++ order := rfl
  obtain ⟨kept, settled⟩ := resolveInOrder_sound built sorted split ran
  constructor
  · intro name raw found
    by_cases inOrder : name ∈ order
    · exact settled name inOrder raw found
    · refine ⟨raw, ?_, ?_⟩
      · rw [← kept name inOrder, get?_startScope_of_not_mem sorted inOrder, found,
          Option.some_or]
      · rw [resolveValue_of_not_isTemplated (sorted.not_isTemplated built found inOrder)]
        rfl
  · intro name absent
    have outside : name ∉ order := by
      intro inOrder
      obtain ⟨raw, found⟩ := sorted.get?_of_mem built inOrder
      exact absent (NameMap.mem_names_iff.mpr ⟨raw, found⟩)
    rw [← kept name outside, get?_startScope_of_not_mem sorted outside,
      NameMap.get?_eq_none_iff.mpr absent, Option.none_or]

/-- A run gives every name of the batch a value, and its scope at the end is the base under these. -/
theorem extend_restrictTo_of_resolveInOrder (built : Graph.build engine.tokenizer batch = .ok graph)
    (sorted : graph.IsTopological order)
    (ran : (engine.resolveInOrder batch cancellation (startScope base batch graph) order).outcome =
      .ok final) :
    (∀ name ∈ batch.names, name ∈ final.names) ∧
      ∀ name, (base.extend (batch.restrictTo final)).get? name = final.get? name := by
  obtain ⟨settled, elsewhere⟩ := ends_of_resolveInOrder built sorted ran
  have covered : ∀ name ∈ batch.names, name ∈ final.names := by
    intro name member
    obtain ⟨raw, found⟩ := NameMap.mem_names_iff.mp member
    obtain ⟨value, place, -⟩ := settled name raw found
    exact NameMap.mem_names_iff.mpr ⟨value, place⟩
  exact ⟨covered, NameMap.get?_extend_restrictTo covered elsewhere⟩

/-- What a batch is resolved to solves the batch, and has its names in their order. -/
theorem solves_of_resolve {out : Bindings}
    (resolved : (engine.resolve cancellation base batch).outcome = .ok out) :
    out.names = batch.names ∧ engine.Solves base batch out := by
  obtain ⟨graph, order, built, ordered⟩ := exists_order_of_resolve resolved
  rw [resolve_eq_of_order built ordered] at resolved
  obtain ⟨final, ran, rfl⟩ := Outcome.map_eq_ok_iff.mp resolved
  have sorted := Graph.isTopological_of_topologicalOrder ordered
  obtain ⟨settled, -⟩ := ends_of_resolveInOrder built sorted ran
  obtain ⟨covered, ends⟩ := extend_restrictTo_of_resolveInOrder built sorted ran
  refine ⟨NameMap.names_restrictTo final covered, ?_⟩
  intro name raw found
  obtain ⟨value, place, comes⟩ := settled name raw found
  obtain ⟨reads, read⟩ := Graph.references_of_build built found
  refine ⟨value, ?_, ?_⟩
  · rw [NameMap.get?_restrictTo final (NameMap.mem_names_iff.mpr ⟨raw, found⟩), place]
  · rw [resolveValue_agreeOn raw read fun target _ => ends target]
    exact comes

/-- A batch that has an order and a solution is resolved, and to that solution. -/
theorem resolve_of_solves (built : Graph.build engine.tokenizer batch = .ok graph)
    (ordered : graph.topologicalOrder = .ok order) (solved : engine.Solves base batch candidate)
    (within : ∀ name ∈ candidate.names, name ∈ batch.names) :
    ∃ out, (engine.resolve .ignored base batch).outcome = .ok out ∧
      ∀ name, out.get? name = candidate.get? name := by
  have sorted := Graph.isTopological_of_topologicalOrder ordered
  have start := solved.agreeOff_startScope within built sorted
  have split : order = [] ++ order := rfl
  obtain ⟨final, ran, ends⟩ := resolveInOrder_complete built sorted solved split start
  have ignored : engine.polling .ignored = .ignored := ite_self _
  have resolved : (engine.resolve .ignored base batch).outcome = .ok (batch.restrictTo final) := by
    rw [resolve_eq_of_order built ordered, ignored]
    exact Outcome.map_eq_ok_iff.mpr ⟨final, ran, rfl⟩
  obtain ⟨names, -⟩ := solves_of_resolve resolved
  refine ⟨batch.restrictTo final, resolved, ?_⟩
  intro name
  by_cases member : name ∈ batch.names
  · obtain ⟨raw, found⟩ := NameMap.mem_names_iff.mp member
    obtain ⟨value, place, -⟩ := solved name raw found
    rw [NameMap.get?_restrictTo final member, ends, NameMap.get?_extend_of_some place, place]
  · have outside : name ∉ candidate.names := fun inside => member (within name inside)
    rw [NameMap.get?_eq_none_iff.mpr outside, NameMap.get?_eq_none_iff, names]
    exact member

end Engine

end Templating
