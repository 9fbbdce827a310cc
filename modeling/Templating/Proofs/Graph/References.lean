import Templating.Proofs.Evaluation.Leaves
import Templating.Proofs.Graph.Build

/-!
# The references of a batch

The graph of a batch is read off the leaves of its entries, one after the other. Its edges and its
missing names are the names that the tokens of these leaves refer to, in the order in which they are
first met, and each once. The first leaf that is refused ends the reading.
-/

namespace Templating

variable {tokenizer : Tokenizer} {error : TemplateError}

namespace Leaf

def isRefused (tokenizer : Tokenizer) (leaf : Leaf) : Bool :=
  match tokenizer.tokenize leaf.template with
  | .error _ => true
  | .ok _ => false

/-- The names that the tokens of the leaf refer to; a leaf that is refused has no tokens. -/
def references (tokenizer : Tokenizer) (leaf : Leaf) : List String :=
  ((tokenizer.tokenize leaf.template).toOption.getD []).flatMap Token.references

theorem isRefused_iff {leaf : Leaf} :
    leaf.isRefused tokenizer = true ↔ ∃ error, tokenizer.tokenize leaf.template = .error error := by
  rw [isRefused]
  cases tokenizer.tokenize leaf.template <;> simp

theorem templateReferences_of_read {leaf : Leaf} (read : leaf.isRefused tokenizer = false) :
    templateReferences tokenizer leaf.template = .ok (leaf.references tokenizer) := by
  rw [isRefused] at read
  rw [templateReferences, references]
  cases cut : tokenizer.tokenize leaf.template with
  | error error =>
      rw [cut] at read
      cases read
  | ok tokens => rfl

/-- The names in one leaf after the other, or the error of the first that is refused. -/
def collect (tokenizer : Tokenizer) : List Leaf → Except TemplateError (List String)
  | [] => .ok []
  | leaf :: rest =>
      (templateReferences tokenizer leaf.template).bind fun names =>
        (collect tokenizer rest).map (names ++ ·)

theorem collect_append (front back : List Leaf) :
    collect tokenizer (front ++ back) =
      (collect tokenizer front).bind fun names => (collect tokenizer back).map (names ++ ·) := by
  induction front with
  | nil =>
      cases back' : collect tokenizer back <;> rw [List.nil_append, back'] <;> rfl
  | cons leaf rest ih =>
      rw [List.cons_append, collect, collect, ih]
      cases templateReferences tokenizer leaf.template with
      | error error => rfl
      | ok names =>
          cases collect tokenizer rest with
          | error error => rfl
          | ok others =>
              cases collect tokenizer back with
              | error error => rfl
              | ok last => exact congrArg Except.ok (List.append_assoc names others last).symm

theorem collect_under (key : String) (leaves : List Leaf) :
    collect tokenizer (leaves.map (under key)) = collect tokenizer leaves := by
  induction leaves with
  | nil => rfl
  | cons leaf rest ih =>
      rw [List.map_cons, collect, collect, ih]
      rfl

theorem flatMap_references_under (key : String) (leaves : List Leaf) :
    (leaves.map (under key)).flatMap (references tokenizer) =
      leaves.flatMap (references tokenizer) := by
  rw [List.flatMap_map]
  rfl

theorem find?_isRefused_under (key : String) (leaves : List Leaf) :
    (leaves.map (under key)).find? (isRefused tokenizer) =
      (leaves.find? (isRefused tokenizer)).map (under key) := by
  rw [List.find?_map]
  rfl

/-- The leaves are collected unless one of them is refused, and the first such leaf has the
error. -/
theorem collect_eq (tokenizer : Tokenizer) (leaves : List Leaf) :
    (leaves.find? (isRefused tokenizer) = none ∧
      collect tokenizer leaves = .ok (leaves.flatMap (references tokenizer))) ∨
    ∃ leaf error, leaves.find? (isRefused tokenizer) = some leaf ∧
      tokenizer.tokenize leaf.template = .error error ∧
        collect tokenizer leaves = .error error := by
  induction leaves with
  | nil => exact .inl ⟨rfl, rfl⟩
  | cons leaf rest ih =>
      rw [List.find?_cons, collect]
      cases refused : leaf.isRefused tokenizer with
      | true =>
          obtain ⟨error, cut⟩ := isRefused_iff.mp refused
          refine .inr ⟨leaf, error, rfl, cut, ?_⟩
          rw [templateReferences, cut]
          rfl
      | false =>
          rw [templateReferences_of_read refused]
          rcases ih with ⟨none, collected⟩ | ⟨failing, error, first, cut, failed⟩
          · refine .inl ⟨none, ?_⟩
            rw [collected, List.flatMap_cons]
            rfl
          · refine .inr ⟨failing, error, first, cut, ?_⟩
            rw [failed]
            rfl

theorem collect_ok_iff {leaves : List Leaf} :
    (∃ names, collect tokenizer leaves = .ok names) ↔
      ∀ leaf ∈ leaves, ∃ tokens, tokenizer.tokenize leaf.template = .ok tokens := by
  rcases collect_eq tokenizer leaves with
    ⟨none, collected⟩ | ⟨failing, error, first, cut, failed⟩
  · refine iff_of_true ⟨_, collected⟩ fun leaf member => ?_
    have read := List.find?_eq_none.mp none leaf member
    cases cut : tokenizer.tokenize leaf.template with
    | error error => exact absurd (isRefused_iff.mpr ⟨error, cut⟩) read
    | ok tokens => exact ⟨tokens, rfl⟩
  · refine iff_of_false ?_ fun each => ?_
    · rintro ⟨names, collected⟩
      cases failed.symm.trans collected
    · obtain ⟨tokens, read⟩ := each failing (List.mem_of_find?_eq_some first)
      cases cut.symm.trans read

end Leaf

namespace Value

mutual

/-- The references of a value are those of its leaves. -/
theorem references_eq_collect : (value : Value) →
    value.references tokenizer = Leaf.collect tokenizer value.leaves
  | .string template => by
      rw [references, leaves, Leaf.collect, Leaf.collect]
      cases templateReferences tokenizer template with
      | error error => rfl
      | ok names => exact congrArg Except.ok (List.append_nil names).symm
  | .map entries => by
      rw [references, leaves, entryReferences_eq_collect entries]
  | .nil => rfl
  | .bool _ => rfl
  | .int _ => rfl
  | .float _ => rfl
  | .list _ => rfl
  | .timestamp _ => rfl

theorem entryReferences_eq_collect : (entries : List (String × Value)) →
    entryReferences tokenizer entries = Leaf.collect tokenizer (entryLeaves entries)
  | [] => rfl
  | (key, value) :: rest => by
      rw [entryReferences, entryLeaves, Leaf.collect_append, Leaf.collect_under,
        references_eq_collect value, entryReferences_eq_collect rest]
      cases Leaf.collect tokenizer value.leaves <;> rfl

end

theorem leaves_of_not_isTemplated {value : Value} (plain : value.isTemplated = false) :
    value.leaves = [] := by
  cases value with
  | string _ => cases plain
  | map _ => cases plain
  | _ => rfl

theorem forall_mem_entryLeaves (holds : String → Prop) {entries : List (String × Value)} :
    (∀ leaf ∈ entryLeaves entries, holds leaf.template) ↔
      ∀ entry ∈ entries, ∀ leaf ∈ entry.2.leaves, holds leaf.template := by
  induction entries with
  | nil => simp [entryLeaves]
  | cons entry rest ih =>
      rw [entryLeaves, List.forall_mem_append, List.forall_mem_cons, ih, List.forall_mem_map]
      rfl

end Value

namespace Graph

variable {batch : Bindings} {graph final : Graph}

/-- Names are added once, in the order in which they are first met. -/
theorem addNew_eraseDups (front back : List String) :
    addNew front.eraseDups back = (front ++ back).eraseDups := by
  induction back generalizing front with
  | nil =>
      rw [List.append_nil]
      rfl
  | cons name rest ih =>
      have step : addNew front.eraseDups (name :: rest) =
          addNew (if front.eraseDups.contains name then front.eraseDups
            else front.eraseDups ++ [name]) rest := rfl
      have joined : (if front.eraseDups.contains name then front.eraseDups
          else front.eraseDups ++ [name]) = (front ++ [name]).eraseDups := by
        simp only [eraseDups_concat, List.contains_iff_mem, List.mem_eraseDups]
      rw [step, joined, ih, List.append_assoc, List.singleton_append]

theorem addNew_nil (names : List String) : addNew [] names = names.eraseDups :=
  addNew_eraseDups [] names

theorem missing_addEntries (entries : List (String × Value)) (seen : List String)
    (start : graph.missing = seen.eraseDups)
    (built : addEntries tokenizer batch graph entries = .ok final) :
    final.missing = (seen ++ ((Value.entryLeaves entries).flatMap
      (Leaf.references tokenizer)).filter fun name => !batch.contains name).eraseDups := by
  induction entries generalizing graph seen with
  | nil =>
      cases built
      rw [Value.entryLeaves, List.flatMap_nil, List.filter_nil, List.append_nil, start]
  | cons entry rest ih =>
      obtain ⟨key, value⟩ := entry
      rw [addEntries] at built
      rw [Value.entryLeaves, List.flatMap_append, Leaf.flatMap_references_under,
        List.filter_append, ← List.append_assoc]
      by_cases templated : value.isTemplated = true
      · rw [if_pos templated, Value.references_eq_collect] at built
        rcases Leaf.collect_eq tokenizer value.leaves with
          ⟨-, collected⟩ | ⟨_, error, -, -, failed⟩
        · rw [collected] at built
          refine ih _ ?_ built
          rw [addNode, start, addNew_eraseDups]
        · rw [failed] at built
          cases built
      · have plain := Value.leaves_of_not_isTemplated (eq_false_of_ne_true templated)
        rw [if_neg templated] at built
        rw [plain, List.flatMap_nil, List.filter_nil, List.append_nil]
        exact ih _ start built

/-- Entries are refused with the error of their first leaf that is refused, under the name of its
entry. -/
theorem addEntries_error_iff (entries : List (String × Value)) :
    addEntries tokenizer batch graph entries = .error error ↔
      ∃ key path template inside,
        (Value.entryLeaves entries).find? (Leaf.isRefused tokenizer) =
          some ⟨key :: path, template⟩ ∧
        tokenizer.tokenize template = .error inside ∧ error = .inVariable key inside := by
  induction entries generalizing graph with
  | nil => simp [addEntries, Value.entryLeaves]
  | cons entry rest ih =>
      obtain ⟨key, value⟩ := entry
      rw [addEntries, Value.entryLeaves, List.find?_append, Leaf.find?_isRefused_under]
      by_cases templated : value.isTemplated = true
      · rw [if_pos templated, Value.references_eq_collect]
        rcases Leaf.collect_eq tokenizer value.leaves with
          ⟨none, collected⟩ | ⟨leaf, inside, first, cut, failed⟩
        · rw [collected, none]
          exact ih
        · rw [failed, first]
          constructor
          · rintro ⟨⟩
            exact ⟨key, leaf.path, leaf.template, inside, rfl, cut, rfl⟩
          · rintro ⟨_, _, _, other, same, cut', rfl⟩
            cases same
            rw [cut] at cut'
            cases cut'
            rfl
      · have plain := Value.leaves_of_not_isTemplated (eq_false_of_ne_true templated)
        rw [if_neg templated, plain]
        exact ih

theorem names_filterMap_targets (entries : List (String × Value))
    (read : ∀ entry ∈ entries, ∃ names, entry.2.references tokenizer = .ok names) :
    Entries.names (entries.filterMap fun entry =>
        (targets tokenizer batch entry.2).map fun names => (entry.1, names)) =
      (entries.filter fun entry => entry.2.isTemplated).map Prod.fst := by
  induction entries with
  | nil => rfl
  | cons entry rest ih =>
      obtain ⟨key, value⟩ := entry
      obtain ⟨⟨names, own⟩, others⟩ := List.forall_mem_cons.mp read
      have later := ih others
      by_cases templated : value.isTemplated = true
      · have node : targets tokenizer batch value =
            some (addNew [] (names.filter batch.contains)) := by
          rw [targets, if_pos templated, own]
          rfl
        simp [node, templated, later]
      · have node : targets tokenizer batch value = none := by
          rw [targets, if_neg templated]
        simp [node, templated, later]

theorem nodes_build (built : build tokenizer batch = .ok graph) :
    graph.nodes = (batch.entries.filter fun entry => entry.2.isTemplated).map Prod.fst := by
  rw [nodes, NameMap.names, edges_build built]
  exact names_filterMap_targets batch.entries (build_ok_iff.mp ⟨graph, built⟩)

theorem contains_eq (batch : Bindings) :
    batch.contains = fun name => decide (name ∈ batch.names) := by
  funext name
  rw [Bool.eq_iff_iff, NameMap.contains_iff, decide_eq_true_eq]

theorem dependencies_build {name : String} {value : Value}
    (built : build tokenizer batch = .ok graph) (found : batch.get? name = some value) :
    graph.dependencies name = ((value.leaves.flatMap (Leaf.references tokenizer)).filter
      fun target => target ∈ batch.names).eraseDups := by
  rw [dependencies, get?_edges_build built, found, Option.bind_some, targets]
  obtain ⟨names, read⟩ := references_of_build built found
  rw [Value.references_eq_collect] at read ⊢
  by_cases templated : value.isTemplated = true
  · rcases Leaf.collect_eq tokenizer value.leaves with
      ⟨-, collected⟩ | ⟨_, error, -, -, failed⟩
    · simp only [if_pos templated, collected, Except.toOption, Option.map_some, addNew_nil,
        contains_eq, Option.getD_some]
    · rw [failed] at read
      cases read
  · rw [if_neg templated, Value.leaves_of_not_isTemplated (eq_false_of_ne_true templated)]
    rfl

/-- A batch has a graph unless one of its leaves is refused. The nodes of the graph are the entries
that templates can stand in, an entry depends on the entries that its own leaves refer to, and
missing are the other names that any leaf refers to, all in the order of the batch and each once.
If leaves are refused, the error is that of the first one, under the name of its entry. -/
theorem build_reads_leaves (tokenizer : Tokenizer) (batch : Bindings) :
    ((∃ graph, build tokenizer batch = .ok graph) ↔
      ∀ leaf ∈ batch.toValue.leaves, ∃ tokens, tokenizer.tokenize leaf.template = .ok tokens) ∧
    (∀ graph, build tokenizer batch = .ok graph →
      graph.nodes = (batch.entries.filter fun entry => entry.2.isTemplated).map Prod.fst ∧
      (∀ name value, batch.get? name = some value →
        graph.dependencies name = ((value.leaves.flatMap (Leaf.references tokenizer)).filter
          fun target => target ∈ batch.names).eraseDups ∧ (graph.dependencies name).Nodup) ∧
      graph.missing = ((batch.toValue.leaves.flatMap (Leaf.references tokenizer)).filter
        fun target => target ∉ batch.names).eraseDups ∧ graph.missing.Nodup ∧
      ∀ name ∈ graph.missing, name ∉ batch.names) ∧
    ∀ error, build tokenizer batch = .error error ↔
      ∃ key path template inside,
        batch.toValue.leaves.find? (Leaf.isRefused tokenizer) = some ⟨key :: path, template⟩ ∧
        tokenizer.tokenize template = .error inside ∧ error = .inVariable key inside := by
  refine ⟨?_, ?_, fun error => addEntries_error_iff batch.entries⟩
  · rw [build_ok_iff, Bindings.toValue, Value.leaves, Value.forall_mem_entryLeaves
      fun template => ∃ tokens, tokenizer.tokenize template = .ok tokens]
    refine forall₂_congr fun entry _ => ?_
    rw [Value.references_eq_collect]
    exact Leaf.collect_ok_iff
  · intro graph built
    have missing : graph.missing =
        ((batch.toValue.leaves.flatMap (Leaf.references tokenizer)).filter
          fun target => target ∉ batch.names).eraseDups := by
      have read := missing_addEntries batch.entries [] rfl built
      simp only [contains_eq, List.nil_append] at read
      simpa [Bindings.toValue, Value.leaves] using read
    refine ⟨nodes_build built, ?_, missing, missing ▸ nodup_eraseDups _, ?_⟩
    · intro name value found
      have own := dependencies_build built found
      exact ⟨own, own ▸ nodup_eraseDups _⟩
    · intro name member
      rw [missing, List.mem_eraseDups, List.mem_filter] at member
      exact of_decide_eq_true member.2

/-- Leaves in a nested map count for the entry that holds it, in the order of its keys; a leaf that
is refused there is reported under the name of that entry alone. -/
theorem build_reads_leaves_nested :
    let tokenizer : Tokenizer := ⟨true, false⟩
    let inner : Value := .map [("zone", .string "\x7b\x7b zone \x7d\x7d"),
      ("count", .string "\x7b\x7b count \x7d\x7d")]
    let site : Value := .map [("inner", inner), ("near", .string "\x7b\x7b zone \x7d\x7d"),
      ("again", .string "\x7b\x7b note \x7d\x7d")]
    let batch : Bindings := .ofPairs [("note", .string "\x7b\x7b site \x7d\x7d"),
      ("count", .int 3), ("site", site)]
    let broken : Bindings := .ofPairs [("note", .string "\x7b\x7b site \x7d\x7d"),
      ("site", .map [("inner", .map [("zone", .string "\x7b\x7b zone")])]),
      ("last", .string "\x7b\x7b")]
    (∃ graph, build tokenizer batch = .ok graph ∧ graph.nodes = ["note", "site"] ∧
      graph.dependencies "site" = ["count", "note"] ∧ graph.missing = ["zone"]) ∧
    build tokenizer broken = .error (.inVariable "site" (.malformedTemplate 0 .unclosed)) := by
  intro tokenizer inner site batch broken
  have readSite : tokenizer.tokenize "\x7b\x7b site \x7d\x7d" = .ok [.plain "site"] :=
    Tokenizer.tokenize_single " site ".toList (by decide) (by decide) rfl rfl
  have readZone : tokenizer.tokenize "\x7b\x7b zone \x7d\x7d" = .ok [.plain "zone"] :=
    Tokenizer.tokenize_single " zone ".toList (by decide) (by decide) rfl rfl
  have readCount : tokenizer.tokenize "\x7b\x7b count \x7d\x7d" = .ok [.plain "count"] :=
    Tokenizer.tokenize_single " count ".toList (by decide) (by decide) rfl rfl
  have readNote : tokenizer.tokenize "\x7b\x7b note \x7d\x7d" = .ok [.plain "note"] :=
    Tokenizer.tokenize_single " note ".toList (by decide) (by decide) rfl rfl
  have unread : tokenizer.tokenize "\x7b\x7b zone" = .error (.malformedTemplate 0 .unclosed) :=
    Tokenizer.tokenize_unclosed [] " zone".toList rfl (by decide) (by decide)
  obtain ⟨readable, whole, -⟩ := build_reads_leaves tokenizer batch
  obtain ⟨-, -, failed⟩ := build_reads_leaves tokenizer broken
  constructor
  · have leaves : batch.toValue.leaves = [⟨["note"], "\x7b\x7b site \x7d\x7d"⟩,
        ⟨["site", "inner", "zone"], "\x7b\x7b zone \x7d\x7d"⟩,
        ⟨["site", "inner", "count"], "\x7b\x7b count \x7d\x7d"⟩,
        ⟨["site", "near"], "\x7b\x7b zone \x7d\x7d"⟩,
        ⟨["site", "again"], "\x7b\x7b note \x7d\x7d"⟩] := rfl
    have reads : site.leaves.flatMap (Leaf.references tokenizer) =
        ["zone", "count", "zone", "note"] := by
      simp [site, inner, Value.leaves, Value.entryLeaves, Leaf.under, Leaf.references, readZone,
        readCount, readNote, Except.toOption, Token.references]
    have every : batch.toValue.leaves.flatMap (Leaf.references tokenizer) =
        ["site", "zone", "count", "zone", "note"] := by
      simp [leaves, Leaf.references, readSite, readZone, readCount, readNote, Except.toOption,
        Token.references]
    obtain ⟨graph, built⟩ :=
      readable.mpr (by simp [leaves, readSite, readZone, readCount, readNote])
    obtain ⟨nodes, edges, missing, -⟩ := whole graph built
    refine ⟨graph, built, nodes, ?_, ?_⟩
    · rw [(edges "site" site rfl).1, reads]
      rfl
    · rw [missing, every]
      rfl
  · refine (failed _).mpr ⟨"site", ["inner", "zone"], "\x7b\x7b zone", _, ?_, unread, rfl⟩
    have leaves : broken.toValue.leaves = [⟨["note"], "\x7b\x7b site \x7d\x7d"⟩,
        ⟨["site", "inner", "zone"], "\x7b\x7b zone"⟩, ⟨["last"], "\x7b\x7b"⟩] := rfl
    simp [leaves, Leaf.isRefused, readSite, unread]

end Graph

end Templating
