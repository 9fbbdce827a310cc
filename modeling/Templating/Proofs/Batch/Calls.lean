import Templating.Proofs.Batch.Inert

/-!
# The filter calls of a batch

An entry is evaluated once, in the scope of the entries before it, and what it reads there is what
it reads in the scope at the end. So the calls of a batch are those that its entries make on their
own in that scope, one entry after the other in the order of the graph.
-/

namespace Templating.Engine

variable {engine : Engine} {base batch scope final out : Bindings} {graph : Graph}
  {order before pending : List String} {cancellation : Cancellation} {name : String} {raw : Value}

/-- The filter calls that an entry of the batch makes when it is evaluated on its own. -/
def entryCalls (engine : Engine) (batch scope : Bindings) (name : String) : List Call :=
  match batch.get? name with
  | none => []
  | some raw => (engine.resolveValue scope raw).calls

theorem entryCalls_of_get? (found : batch.get? name = some raw) :
    engine.entryCalls batch scope name = (engine.resolveValue scope raw).calls := by
  rw [entryCalls, found]

/-- A run that goes well makes the calls of its entries as they are made in the scope at the end. -/
theorem calls_resolveInOrder (built : Graph.build engine.tokenizer batch = .ok graph)
    (sorted : graph.IsTopological order) (split : order = before ++ pending)
    (ran : (engine.resolveInOrder batch cancellation scope pending).outcome = .ok final) :
    (engine.resolveInOrder batch cancellation scope pending).calls =
      pending.flatMap (engine.entryCalls batch final) := by
  induction pending generalizing before scope cancellation with
  | nil => rfl
  | cons name rest ih =>
      have inOrder : name ∈ order := split ▸ List.mem_append_right before List.mem_cons_self
      obtain ⟨raw, found⟩ := sorted.get?_of_mem built inOrder
      have split' : order = before ++ [name] ++ rest := by
        rw [split, List.append_cons]
      have running := running_of_resolveInOrder ran
      -- What the entry reads is not set any more between its turn and the end.
      obtain ⟨agree, -⟩ := resolveInOrder_sound built sorted split ran
      have own := resolveValue_agreeOff built sorted split found agree
      rw [resolveInOrder_cons rest running found] at ran ⊢
      rw [Traced.andThen_outcome] at ran
      obtain ⟨value, comes, ran'⟩ := Outcome.bind_eq_ok_iff.mp ran
      have later := ih split' ran'
      rw [Traced.andThen_of_ok comes, later, List.flatMap_cons, entryCalls_of_get? found, ← own]
      rfl

theorem calls_of_inert (found : batch.get? name = some raw) (inert : raw.Inert engine.tokenizer) :
    engine.entryCalls batch scope name = [] := by
  rw [entryCalls_of_get? found, resolveValue_of_inert raw inert]
  rfl

/-- A batch that is resolved makes the calls that its entries make on their own against the base
under the result, one entry after the other in the order of the graph. Each entry that templates can
stand in has one place in this order and all others have none, and an entry without placeholders
makes no call. -/
theorem resolve_calls
    (resolved : (engine.resolve cancellation base batch).outcome = .ok out) :
    ∃ graph order, Graph.build engine.tokenizer batch = .ok graph ∧
      graph.topologicalOrder = .ok order ∧
      (engine.resolve cancellation base batch).calls =
        order.flatMap (engine.entryCalls batch (base.extend out)) ∧
      order.Nodup ∧
      (∀ name, name ∈ order ↔ ∃ raw, batch.get? name = some raw ∧ raw.isTemplated = true) ∧
      ∀ name raw, batch.get? name = some raw → raw.Inert engine.tokenizer →
        engine.entryCalls batch (base.extend out) name = [] := by
  obtain ⟨graph, order, built, ordered⟩ := exists_order_of_resolve resolved
  have sorted := Graph.isTopological_of_topologicalOrder ordered
  have isNode : ∀ name, name ∈ order ↔
      ∃ raw, batch.get? name = some raw ∧ raw.isTemplated = true :=
    fun name => (sorted.mem_iff name).trans (Graph.mem_nodes_build_iff built)
  refine ⟨graph, order, built, ordered, ?_, sorted.nodup, isNode, ?_⟩
  · rw [resolve_eq_of_order built ordered] at resolved ⊢
    obtain ⟨final, ran, rfl⟩ := Outcome.map_eq_ok_iff.mp resolved
    obtain ⟨-, ends⟩ := extend_restrictTo_of_resolveInOrder built sorted ran
    have split : order = [] ++ order := rfl
    refine (calls_resolveInOrder built sorted split ran).trans ?_
    refine List.flatMap_congr fun name member => ?_
    obtain ⟨raw, found⟩ := sorted.get?_of_mem built member
    obtain ⟨names, read⟩ := Graph.references_of_build built found
    rw [entryCalls_of_get? found, entryCalls_of_get? found,
      resolveValue_agreeOn raw read fun target _ => (ends target).symm]
  · intro name raw found inert
    exact calls_of_inert found inert

/-- Two entries need a third, whose filter is called once, before those of both; literal text and a
number call none. -/
theorem resolve_calls_shared :
    let enclose : Filter := .transform fun value _ => .ok (.list [value])
    let engine : Engine := ⟨.ofPairs [("enclose", enclose)], {}, .epoch⟩
    let base : Bindings := .ofPairs [("zone", .string "eu")]
    let batch : Bindings := .ofPairs [("near", .string "\x7b\x7b site | enclose \x7d\x7d"),
      ("site", .string "\x7b\x7b zone | enclose \x7d\x7d"), ("count", .int 3),
      ("far", .string "\x7b\x7b site | enclose \x7d\x7d"), ("note", .string "plain")]
    let site : Value := .list [.string "eu"]
    let out : Bindings := .ofPairs [("near", .list [site]), ("site", site), ("count", .int 3),
      ("far", .list [site]), ("note", .string "plain")]
    (engine.resolve .ignored base batch).outcome = .ok out ∧
      (engine.resolve .ignored base batch).calls = [⟨"enclose", .string "eu", [], false⟩,
        ⟨"enclose", site, [], false⟩, ⟨"enclose", site, [], false⟩] := by
  intro enclose engine base batch site out
  have readSite : engine.tokenizer.tokenize "\x7b\x7b site | enclose \x7d\x7d" =
      .ok [.filtered "site | enclose" ⟨"site", [⟨"enclose", []⟩]⟩] :=
    Tokenizer.tokenize_single " site | enclose ".toList (by decide) (by decide) rfl rfl
  have readZone : engine.tokenizer.tokenize "\x7b\x7b zone | enclose \x7d\x7d" =
      .ok [.filtered "zone | enclose" ⟨"zone", [⟨"enclose", []⟩]⟩] :=
    Tokenizer.tokenize_single " zone | enclose ".toList (by decide) (by decide) rfl rfl
  have readPlain : engine.tokenizer.tokenize "plain" = .ok [.text "plain"] := rfl
  have near : batch.get? "near" = some (.string "\x7b\x7b site | enclose \x7d\x7d") := rfl
  have own : batch.get? "site" = some (.string "\x7b\x7b zone | enclose \x7d\x7d") := rfl
  have far : batch.get? "far" = some (.string "\x7b\x7b site | enclose \x7d\x7d") := rfl
  have note : batch.get? "note" = some (.string "plain") := rfl
  have reads : Value.Reads engine.tokenizer batch.entries
      [["site"], ["zone"], [], ["site"], []] :=
    .cons (Value.references_string readSite) (.cons (Value.references_string readZone) (.cons rfl
      (.cons (Value.references_string readSite) (.cons (Value.references_string readPlain) .nil))))
  have ordered : (Graph.ofReads batch [["site"], ["zone"], [], ["site"], []]).topologicalOrder =
      .ok ["site", "near", "far", "note"] := rfl
  have resolved : (engine.resolve .ignored base batch).outcome = .ok out := by
    rw [resolve_of_reads reads ordered]
    simp only [resolveInOrder, near, own, far, note, resolveValue, resolveTemplate, readSite,
      readZone, readPlain]
    rfl
  obtain ⟨graph, order, built', ordered', calls, -⟩ := resolve_calls resolved
  obtain rfl := Except.ok.inj ((Graph.build_of_reads reads).symm.trans built')
  obtain rfl := Except.ok.inj (ordered.symm.trans ordered')
  refine ⟨resolved, calls.trans ?_⟩
  simp only [List.flatMap_cons, List.flatMap_nil, entryCalls, near, own, far, note, resolveValue,
    resolveTemplate, readSite, readZone, readPlain]
  rfl

end Templating.Engine
