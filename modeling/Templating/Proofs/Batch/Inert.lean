import Templating.Proofs.Batch.Run
import Templating.Proofs.Template.Source

/-!
# Batches without placeholders

A value is inert if each of its templates is read as literal text, or as nothing. Such a template
stands for itself and refers to no variable, so the graph of an inert batch has no edges, and each
entry is resolved to what it is. The batch is a fixed point: whatever the base and the filters are,
it is resolved to itself, and no filter is called.
-/

namespace Templating

open Template (opener closer textTokens)
open Text (cut?)

/-! ## Inert values -/

/-- If only literal text is read from a template, all of the template is that text. -/
theorem Tokenizer.eq_textTokens_of_isText {tokenizer : Tokenizer} {template : String}
    {tokens : List Token} (read : tokenizer.tokenize template = .ok tokens)
    (isText : ∀ token ∈ tokens, token.isText = true) : tokens = textTokens template.toList := by
  rw [tokenize_eq_scan, scan] at read
  cases opened : cut? opener template.toList with
  | none =>
      rw [scanFrom_text opened] at read
      exact (Except.ok.inj read).symm
  | some parts =>
      obtain ⟨before, inner⟩ := parts
      cases closed : cut? closer inner with
      | none =>
          rw [scanFrom_unclosed opened closed] at read
          split at read
          · cases read
          · exact (Except.ok.inj read).symm
      | some parts =>
          obtain ⟨contents, rest⟩ := parts
          obtain ⟨next, later, -, -, rfl⟩ := eq_append_of_scanFrom_placeholder opened closed read
          have literal := isText _ (List.mem_append_right _ List.mem_cons_self)
          cases (Template.isText_classify _ contents).symm.trans literal

namespace Value

mutual

/-- Each template in the value, down into nested maps, is read as literal text or as nothing. -/
def Inert (tokenizer : Tokenizer) : Value → Prop
  | string template => ∃ tokens, tokenizer.tokenize template = .ok tokens ∧
      ∀ token ∈ tokens, token.isText = true
  | map entries => InertEntries tokenizer entries
  | _ => True

def InertEntries (tokenizer : Tokenizer) : List (String × Value) → Prop
  | [] => True
  | (_, value) :: rest => value.Inert tokenizer ∧ InertEntries tokenizer rest

end

variable {tokenizer : Tokenizer}

theorem inert_of_mem {entries : List (String × Value)} (inert : InertEntries tokenizer entries)
    {name : String} {value : Value} (member : (name, value) ∈ entries) :
    value.Inert tokenizer := by
  induction entries with
  | nil => cases member
  | cons entry rest ih =>
      obtain ⟨key, first⟩ := entry
      rw [InertEntries] at inert
      rcases List.mem_cons.mp member with here | later
      · cases here
        exact inert.1
      · exact ih inert.2 later

mutual

/-- An inert value refers to nothing. -/
theorem references_of_inert : (value : Value) → value.Inert tokenizer →
    value.references tokenizer = .ok []
  | string template, inert => by
      rw [Inert] at inert
      obtain ⟨tokens, read, isText⟩ := inert
      rw [references, templateReferences, read]
      refine congrArg Except.ok (List.flatMap_eq_nil_iff.mpr fun token member => ?_)
      have literal := isText token member
      cases token with
      | text run => rfl
      | _ => cases literal
  | map entries, inert => by
      rw [Inert] at inert
      rw [references, entryReferences_of_inert entries inert]
  | nil, _ => rfl
  | bool _, _ => rfl
  | int _, _ => rfl
  | float _, _ => rfl
  | list _, _ => rfl
  | timestamp _, _ => rfl

theorem entryReferences_of_inert : (entries : List (String × Value)) →
    InertEntries tokenizer entries → entryReferences tokenizer entries = .ok []
  | [], _ => rfl
  | (_, value) :: rest, inert => by
      rw [InertEntries] at inert
      rw [entryReferences, references_of_inert value inert.1, entryReferences_of_inert rest inert.2]
      rfl

end

end Value

/-- All values of the batch are inert. -/
def Bindings.Inert (tokenizer : Tokenizer) (batch : Bindings) : Prop :=
  Value.InertEntries tokenizer batch.entries

theorem Bindings.Inert.of_get? {tokenizer : Tokenizer} {batch : Bindings} {name : String}
    {raw : Value} (inert : batch.Inert tokenizer) (found : batch.get? name = some raw) :
    raw.Inert tokenizer :=
  Value.inert_of_mem inert (NameMap.mem_entries_iff.mpr found)

/-! ## The graph of an inert batch -/

namespace Graph

variable {tokenizer : Tokenizer} {batch : Bindings} {graph : Graph}

theorem not_edge_of_inert (inert : batch.Inert tokenizer)
    (built : build tokenizer batch = .ok graph) (source target : String) :
    ¬ graph.Edge source target := by
  intro edge
  obtain ⟨raw, names, found, read, reads, -⟩ := (edge_build_iff built).mp edge
  rw [raw.references_of_inert (inert.of_get? found)] at read
  cases read
  cases reads

/-- Nothing is refused, and without edges there are no cycles. -/
theorem exists_order_of_inert (inert : batch.Inert tokenizer) :
    ∃ graph order, build tokenizer batch = .ok graph ∧ graph.topologicalOrder = .ok order := by
  have readable : ∀ entry ∈ batch.entries, ∃ names, entry.2.references tokenizer = .ok names := by
    intro entry member
    exact ⟨[], entry.2.references_of_inert (Value.inert_of_mem inert member)⟩
  obtain ⟨graph, built⟩ := build_ok_iff.mpr readable
  cases ordered : graph.topologicalOrder with
  | ok order => exact ⟨graph, order, built, ordered⟩
  | error error =>
      obtain ⟨node, walk⟩ := topologicalOrder_error_iff.mp ⟨error, ordered⟩
      obtain ⟨target, edge, -⟩ := Relation.TransGen.head'_iff.mp walk
      exact absurd edge (not_edge_of_inert inert built node target)

end Graph

/-! ## Resolving what is inert -/

namespace Engine

variable {engine : Engine} {base batch scope : Bindings} {cancellation : Cancellation}
  {order : List String}

theorem resolveTemplate_of_isText {template : String} {tokens : List Token}
    (read : engine.tokenizer.tokenize template = .ok tokens)
    (isText : ∀ token ∈ tokens, token.isText = true) :
    engine.resolveTemplate scope template = .ok (.string template) := by
  rw [resolveTemplate, read, Tokenizer.eq_textTokens_of_isText read isText]
  by_cases empty : template = ""
  · rw [empty]
    rfl
  · rw [Template.textTokens_toList empty]

mutual

/-- An inert value is resolved to itself, without filter calls. -/
theorem resolveValue_of_inert : (value : Value) → value.Inert engine.tokenizer →
    engine.resolveValue scope value = .ok value
  | .string template, inert => by
      rw [Value.Inert] at inert
      obtain ⟨tokens, read, isText⟩ := inert
      rw [resolveValue, resolveTemplate_of_isText read isText]
  | .map entries, inert => by
      rw [Value.Inert] at inert
      rw [resolveValue, resolveEntries_of_inert entries inert]
      rfl
  | .nil, _ => rfl
  | .bool _, _ => rfl
  | .int _, _ => rfl
  | .float _, _ => rfl
  | .list _, _ => rfl
  | .timestamp _, _ => rfl

theorem resolveEntries_of_inert : (entries : List (String × Value)) →
    Value.InertEntries engine.tokenizer entries → engine.resolveEntries scope entries = .ok entries
  | [], _ => rfl
  | (_, value) :: rest, inert => by
      rw [Value.InertEntries] at inert
      rw [resolveEntries, resolveValue_of_inert value inert.1, resolveEntries_of_inert rest inert.2]
      rfl

end

/-- A run through inert entries makes no calls, and it leaves each entry of the batch as it is if it
starts with those that it does not come to. -/
theorem resolveInOrder_of_inert (inert : batch.Inert engine.tokenizer)
    (running : cancellation.stops = false)
    (known : ∀ name ∈ order, ∃ raw, batch.get? name = some raw)
    (settled : ∀ name ∈ batch.names, name ∉ order → scope.get? name = batch.get? name) :
    ∃ final, engine.resolveInOrder batch cancellation scope order = .ok final ∧
      ∀ name ∈ batch.names, final.get? name = batch.get? name := by
  induction order generalizing scope with
  | nil => exact ⟨scope, rfl, fun name member => settled name member List.not_mem_nil⟩
  | cons name rest ih =>
      obtain ⟨raw, found⟩ := known name List.mem_cons_self
      have comes : engine.resolveValue scope raw = .ok raw :=
        resolveValue_of_inert raw (inert.of_get? found)
      have later : ∀ other ∈ batch.names, other ∉ rest →
          (scope.insert name raw).get? other = batch.get? other := by
        intro other member outside
        by_cases same : other = name
        · rw [same, NameMap.get?_insert_self, found]
        · rw [NameMap.get?_insert_of_ne same]
          exact settled other member fun inside => (List.mem_cons.mp inside).elim same outside
      obtain ⟨final, ran, ends⟩ :=
        ih (fun other member => known other (List.mem_cons_of_mem _ member)) later
      refine ⟨final, ?_, ends⟩
      rw [resolveInOrder_cons rest running found, comes]
      show (Traced.ok raw).andThen (fun value => engine.resolveInOrder batch
        (cancellation.after []) (scope.insert name value) rest) = .ok final
      rw [Traced.andThen_ok, Cancellation.after_nil, ran]

theorem resolve_of_inert (inert : batch.Inert engine.tokenizer)
    (running : (engine.polling cancellation).stops = false) :
    engine.resolve cancellation base batch = .ok batch := by
  obtain ⟨graph, order, built, ordered⟩ := Graph.exists_order_of_inert inert
  have sorted := Graph.isTopological_of_topologicalOrder ordered
  have start : ∀ name ∈ batch.names, name ∉ order →
      (startScope base batch graph).get? name = batch.get? name := by
    intro name member outside
    obtain ⟨raw, found⟩ := NameMap.mem_names_iff.mp member
    rw [get?_startScope_of_not_mem sorted outside, found, Option.some_or]
  obtain ⟨final, ran, ends⟩ := resolveInOrder_of_inert inert running
    (fun name member => sorted.get?_of_mem built member) start
  rw [resolve_eq_of_order built ordered, ran]
  exact congrArg Traced.ok (NameMap.restrictTo_eq_self ends)

/-- A batch without placeholders is resolved to itself over every base, with the same entries in the
same order and without filter calls. So a result without placeholders is what it is resolved to. -/
theorem resolve_inert_eq_self (engine : Engine) :
    (∀ base batch : Bindings, batch.Inert engine.tokenizer →
      engine.resolve .ignored base batch = .ok batch) ∧
    ∀ base batch out : Bindings, (engine.resolve .ignored base batch).outcome = .ok out →
      out.Inert engine.tokenizer → ∀ again : Bindings,
        engine.resolve .ignored again out = .ok out := by
  have unpolled : (engine.polling .ignored).stops = false := by
    rw [polling, ite_self]
    rfl
  constructor
  · intro base batch inert
    exact resolve_of_inert inert unpolled
  · intro base batch out _ inert again
    exact resolve_of_inert inert unpolled

/-- Text with an opener that is never closed, no text, a nested map, and a list, which is left
alone, over a base that has two of the names. -/
theorem resolve_inert_eq_self_unclosed :
    let keep : Filter := .transform fun value _ => .ok value
    let engine : Engine := ⟨.ofPairs [("keep", keep)], {}, .epoch⟩
    let base : Bindings := .ofPairs [("deep", .int 7), ("note", .string "\x7b\x7b note \x7d\x7d")]
    let batch : Bindings := .ofPairs [("note", .string "a \x7b\x7b b"),
      ("deep", .map [("empty", .string ""), ("count", .int 3)]),
      ("items", .list [.string "\x7b\x7b note | keep \x7d\x7d"])]
    batch.Inert engine.tokenizer ∧ engine.resolve .ignored base batch = .ok batch ∧
      engine.resolve .ignored .empty batch = .ok batch := by
  intro keep engine base batch
  have readNote : engine.tokenizer.tokenize "a \x7b\x7b b" = .ok [.text "a \x7b\x7b b"] := rfl
  have readEmpty : engine.tokenizer.tokenize "" = .ok [] := rfl
  have inert : batch.Inert engine.tokenizer := by
    show Value.InertEntries engine.tokenizer [("note", .string "a \x7b\x7b b"),
      ("deep", .map [("empty", .string ""), ("count", .int 3)]),
      ("items", .list [.string "\x7b\x7b note | keep \x7d\x7d"])]
    simp [Value.InertEntries, Value.Inert, readNote, readEmpty, Token.isText]
  obtain ⟨fixed, again⟩ := resolve_inert_eq_self engine
  have resolved : engine.resolve .ignored base batch = .ok batch := fixed base batch inert
  exact ⟨inert, resolved, again base batch batch (congrArg Traced.outcome resolved) inert .empty⟩

end Engine

end Templating
