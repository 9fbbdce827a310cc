import Templating.Proofs.Graph.Topology
import Templating.Proofs.Outcome
import Templating.Proofs.Template.Scan

/-!
# The graph of a batch

Building a graph fails only where a template is refused. A graph that is built has the templated
entries for nodes, in batch order, and an edge for each entry that one of them refers to. Templates
make a difference to it only by the names that they refer to.
-/

namespace Templating

namespace Value

variable {tokenizer : Tokenizer} {error : TemplateError}

theorem references_of_not_isTemplated (tokenizer : Tokenizer) {value : Value}
    (plain : value.isTemplated = false) : value.references tokenizer = .ok [] := by
  cases value with
  | string _ => cases plain
  | map _ => cases plain
  | _ => rfl

mutual

/-- A value has no references only where strict reading refuses one of its templates. -/
theorem malformed_of_references : (value : Value) →
    value.references tokenizer = .error error →
      tokenizer.strict = true ∧ ∃ place reason, error = .malformedTemplate place reason
  | .string template, failed => by
      rw [references] at failed
      exact Tokenizer.strict_of_tokenize_error (Outcome.map_eq_error_iff.mp failed)
  | .map entries, failed => by
      rw [references] at failed
      exact malformed_of_entryReferences entries failed

theorem malformed_of_entryReferences : (entries : List (String × Value)) →
    entryReferences tokenizer entries = .error error →
      tokenizer.strict = true ∧ ∃ place reason, error = .malformedTemplate place reason
  | [], failed => by cases failed
  | (_, value) :: rest, failed => by
      rw [entryReferences] at failed
      cases own : value.references tokenizer with
      | error inside =>
          rw [own] at failed
          cases failed
          exact malformed_of_references value own
      | ok names =>
          rw [own] at failed
          exact malformed_of_entryReferences rest (Outcome.map_eq_error_iff.mp failed)

end

/-- Each entry refers to the names that are listed for it. -/
def Reads (tokenizer : Tokenizer) : List (String × Value) → List (List String) → Prop :=
  List.Forall₂ fun entry names => entry.2.references tokenizer = .ok names

theorem references_string {template : String} {tokens : List Token}
    (read : tokenizer.tokenize template = .ok tokens) :
    (string template).references tokenizer = .ok (tokens.flatMap Token.references) := by
  rw [references, templateReferences, read]
  rfl

/-- A map refers to the names of its entries, one after the other. -/
theorem references_map {entries : List (String × Value)} {names : List (List String)}
    (reads : Reads tokenizer entries names) :
    (map entries).references tokenizer = .ok names.flatten := by
  rw [references]
  induction reads with
  | nil => rfl
  | @cons entry own rest _ read _ ih =>
      obtain ⟨key, value⟩ := entry
      rw [entryReferences, read, ih]
      rfl

end Value

namespace Graph

variable {tokenizer : Tokenizer} {batch : Bindings} {graph final : Graph}
  {name source target : String} {value : Value}

theorem mem_addNew (known names : List String) :
    name ∈ addNew known names ↔ name ∈ known ∨ name ∈ names := by
  induction names generalizing known with
  | nil => simp [addNew]
  | cons first rest ih =>
      have step : addNew known (first :: rest) =
          addNew (if known.contains first then known else known ++ [first]) rest := rfl
      rw [step, ih]
      by_cases present : first ∈ known
      · have same : name = first → name ∈ known := fun equal => equal ▸ present
        simp [present]
        tauto
      · simp [present, or_assoc]

/-- The entries of the batch that a value refers to, each once. A value that no template can stand
in is no node and has none. -/
def targets (tokenizer : Tokenizer) (batch : Bindings) (value : Value) : Option (List String) :=
  if value.isTemplated then
    (value.references tokenizer).toOption.map fun names => addNew [] (names.filter batch.contains)
  else none

theorem edges_addEntries (entries : List (String × Value))
    (distinct : (Entries.names entries).Nodup)
    (fresh : ∀ name ∈ Entries.names entries, name ∉ graph.nodes)
    (built : addEntries tokenizer batch graph entries = .ok final) :
    final.edges.entries = graph.edges.entries ++ entries.filterMap fun entry =>
      (targets tokenizer batch entry.2).map fun names => (entry.1, names) := by
  induction entries generalizing graph with
  | nil =>
      cases built
      exact (List.append_nil _).symm
  | cons entry rest ih =>
      obtain ⟨key, value⟩ := entry
      obtain ⟨unseen, tail⟩ := List.nodup_cons.mp distinct
      have later : ∀ name ∈ Entries.names rest, name ∉ graph.nodes :=
        fun name member => fresh name (List.mem_cons_of_mem _ member)
      rw [addEntries] at built
      by_cases templated : value.isTemplated = true
      · rw [if_pos templated] at built
        cases found : value.references tokenizer with
        | error error =>
            rw [found] at built
            cases built
        | ok names =>
            rw [found] at built
            have appended : (graph.addNode batch key names).edges.entries =
                graph.edges.entries ++ [(key, addNew [] (names.filter batch.contains))] :=
              Entries.insert_of_not_mem (fresh key List.mem_cons_self)
            have apart : ∀ name ∈ Entries.names rest,
                name ∉ (graph.addNode batch key names).nodes := by
              intro name member found
              rcases NameMap.mem_names_insert.mp found with rfl | old
              · exact unseen member
              · exact later name member old
            have own : targets tokenizer batch value =
                some (addNew [] (names.filter batch.contains)) := by
              rw [targets, if_pos templated, found]
              rfl
            rw [ih tail apart built, appended, List.filterMap_cons, own, List.append_assoc]
            rfl
      · rw [if_neg templated] at built
        have own : targets tokenizer batch value = none := by
          rw [targets, if_neg templated]
        rw [ih tail later built, List.filterMap_cons, own]
        rfl

theorem edges_build (built : build tokenizer batch = .ok graph) :
    graph.edges.entries = batch.entries.filterMap fun entry =>
      (targets tokenizer batch entry.2).map fun names => (entry.1, names) :=
  edges_addEntries batch.entries batch.nodup (fun _ _ member => List.not_mem_nil member) built

theorem get?_edges_build (built : build tokenizer batch = .ok graph) (name : String) :
    graph.edges.get? name = (batch.get? name).bind (targets tokenizer batch) := by
  rw [NameMap.get?, edges_build built]
  exact Entries.get?_filterMap batch.entries _ batch.nodup

theorem addEntries_ok_iff (entries : List (String × Value)) :
    (∃ final, addEntries tokenizer batch graph entries = .ok final) ↔
      ∀ entry ∈ entries, ∃ names, entry.2.references tokenizer = .ok names := by
  induction entries generalizing graph with
  | nil => exact ⟨fun _ _ member => absurd member List.not_mem_nil, fun _ => ⟨graph, rfl⟩⟩
  | cons entry rest ih =>
      obtain ⟨key, value⟩ := entry
      rw [List.forall_mem_cons, addEntries]
      by_cases templated : value.isTemplated = true
      · rw [if_pos templated]
        cases found : value.references tokenizer with
        | error error => simp
        | ok names => simpa using ih
      · have plain := Value.references_of_not_isTemplated tokenizer
          (eq_false_of_ne_true templated)
        rw [if_neg templated, ih]
        exact ⟨fun all => ⟨⟨[], plain⟩, all⟩, fun all => all.2⟩

/-- A batch has a graph when none of its templates is refused. -/
theorem build_ok_iff :
    (∃ graph, build tokenizer batch = .ok graph) ↔
      ∀ entry ∈ batch.entries, ∃ names, entry.2.references tokenizer = .ok names :=
  addEntries_ok_iff batch.entries

theorem mem_missing_addEntries (entries : List (String × Value))
    (built : addEntries tokenizer batch graph entries = .ok final) :
    name ∈ final.missing ↔ name ∈ graph.missing ∨ ∃ entry ∈ entries, ∃ names,
      entry.2.references tokenizer = .ok names ∧ name ∈ names ∧ name ∉ batch.names := by
  induction entries generalizing graph with
  | nil =>
      cases built
      simp
  | cons entry rest ih =>
      obtain ⟨key, value⟩ := entry
      rw [addEntries] at built
      simp only [List.exists_mem_cons_iff]
      by_cases templated : value.isTemplated = true
      · rw [if_pos templated] at built
        cases found : value.references tokenizer with
        | error error =>
            rw [found] at built
            cases built
        | ok names =>
            rw [found] at built
            have own : name ∈ (graph.addNode batch key names).missing ↔
                name ∈ graph.missing ∨ name ∈ names ∧ name ∉ batch.names := by
              simp [addNode, mem_addNew, ← NameMap.contains_iff]
            rw [ih built, own]
            simp [or_assoc]
      · have plain := Value.references_of_not_isTemplated tokenizer
          (eq_false_of_ne_true templated)
        rw [if_neg templated] at built
        rw [ih built]
        simp [plain]

/-- Entries are refused with the error of one of them, under its name. -/
theorem refused_of_addEntries {error : TemplateError} (entries : List (String × Value))
    (failed : addEntries tokenizer batch graph entries = .error error) :
    ∃ entry ∈ entries, ∃ inside, entry.2.references tokenizer = .error inside ∧
      error = .inVariable entry.1 inside := by
  induction entries generalizing graph with
  | nil => cases failed
  | cons entry rest ih =>
      obtain ⟨key, value⟩ := entry
      rw [List.exists_mem_cons_iff]
      rw [addEntries] at failed
      split at failed
      · split at failed
        next inside refused =>
          cases failed
          exact .inl ⟨inside, refused, rfl⟩
        · exact .inr (ih failed)
      · exact .inr (ih failed)

/-- The only error of building a graph is a template that strict reading refuses, in the entry that
has it. -/
theorem malformed_of_build {error : TemplateError} (failed : build tokenizer batch = .error error) :
    tokenizer.strict = true ∧ ∃ name ∈ batch.names, ∃ place reason,
      error = .inVariable name (.malformedTemplate place reason) := by
  obtain ⟨entry, member, inside, refused, rfl⟩ := refused_of_addEntries batch.entries failed
  obtain ⟨strict, place, reason, rfl⟩ := Value.malformed_of_references entry.2 refused
  exact ⟨strict, entry.1, List.mem_map_of_mem member, place, reason, rfl⟩

theorem references_of_build (built : build tokenizer batch = .ok graph)
    (found : batch.get? name = some value) : ∃ names, value.references tokenizer = .ok names :=
  build_ok_iff.mp ⟨graph, built⟩ (name, value) (NameMap.mem_entries_iff.mpr found)

/-- The nodes are the entries that templates can stand in. -/
theorem mem_nodes_build_iff (built : build tokenizer batch = .ok graph) :
    name ∈ graph.nodes ↔ ∃ value, batch.get? name = some value ∧ value.isTemplated = true := by
  rw [nodes, NameMap.mem_names_iff]
  simp only [get?_edges_build built, Option.bind_eq_some_iff]
  constructor
  · rintro ⟨names, value, found, own⟩
    refine ⟨value, found, ?_⟩
    by_contra plain
    rw [targets, if_neg plain] at own
    cases own
  · rintro ⟨value, found, templated⟩
    obtain ⟨names, read⟩ := references_of_build built found
    refine ⟨addNew [] (names.filter batch.contains), value, found, ?_⟩
    rw [targets, if_pos templated, read]
    rfl

/-- What is missing are the names outside the batch that its values refer to. -/
theorem mem_missing_build_iff (built : build tokenizer batch = .ok graph) :
    name ∈ graph.missing ↔ ∃ source value names, batch.get? source = some value ∧
      value.references tokenizer = .ok names ∧ name ∈ names ∧ name ∉ batch.names := by
  rw [mem_missing_addEntries batch.entries built]
  simp only [Graph.empty, List.not_mem_nil, false_or, Prod.exists, NameMap.mem_entries_iff]
  constructor
  · rintro ⟨source, value, found, names, read⟩
    exact ⟨source, value, names, found, read⟩
  · rintro ⟨source, value, names, found, read⟩
    exact ⟨source, value, found, names, read⟩

/-- A value of a batch refers to entries of the batch and to what is missing. -/
theorem mem_missing_or_mem_names {names : List String} (built : build tokenizer batch = .ok graph)
    (found : batch.get? source = some value) (read : value.references tokenizer = .ok names)
    (reads : target ∈ names) : target ∈ graph.missing ∨ target ∈ batch.names := by
  by_cases inside : target ∈ batch.names
  · exact .inr inside
  · refine .inl ((mem_missing_build_iff built).mpr ?_)
    exact ⟨source, value, names, found, read, reads, inside⟩

/-- An entry has an edge to each entry that its value refers to. -/
theorem edge_build_iff (built : build tokenizer batch = .ok graph) :
    graph.Edge source target ↔ ∃ value names, batch.get? source = some value ∧
      value.references tokenizer = .ok names ∧ target ∈ names ∧ target ∈ batch.names := by
  rw [Edge, dependencies, get?_edges_build built]
  cases found : batch.get? source with
  | none => simp
  | some value =>
      obtain ⟨names, read⟩ := references_of_build built found
      by_cases templated : value.isTemplated = true
      · simp [targets, templated, read, Except.toOption, mem_addNew, NameMap.contains_iff]
      · have plain := Value.references_of_not_isTemplated tokenizer
          (eq_false_of_ne_true templated)
        simp [targets, templated, plain]

/-! ## Batches whose references are known -/

/-- Adds the node of an entry that refers to these names, if templates can stand in it. -/
def addRead (batch : Bindings) (graph : Graph) (read : (String × Value) × List String) : Graph :=
  if read.1.2.isTemplated then graph.addNode batch read.1.1 read.2 else graph

/-- The graph of a batch whose entries refer to the names that are listed for them. -/
def ofReads (batch : Bindings) (names : List (List String)) : Graph :=
  (batch.entries.zip names).foldl (addRead batch) .empty

theorem addEntries_of_reads {entries : List (String × Value)} {names : List (List String)}
    (reads : Value.Reads tokenizer entries names) (graph : Graph) :
    addEntries tokenizer batch graph entries =
      .ok ((entries.zip names).foldl (addRead batch) graph) := by
  induction reads generalizing graph with
  | nil => rfl
  | @cons entry own rest _ read _ ih =>
      obtain ⟨key, value⟩ := entry
      rw [addEntries, List.zip_cons_cons, List.foldl_cons, ← ih, addRead]
      by_cases templated : value.isTemplated = true
      · rw [if_pos templated, if_pos templated, read]
      · rw [if_neg templated, if_neg templated]

/-- The graph of a batch follows from the names that its entries refer to. -/
theorem build_of_reads {names : List (List String)}
    (reads : Value.Reads tokenizer batch.entries names) :
    build tokenizer batch = .ok (ofReads batch names) :=
  addEntries_of_reads reads .empty

end Graph

end Templating
