import Templating.Proofs.Evaluation.Failure

/-!
# The leaves of a value

A value is resolved leaf by leaf: its templates are evaluated one after the other, in the order of
the entries, and each is replaced by its own value. Nothing else in the value changes. The first
template that fails ends this, and the error is wrapped in the names on the way to it.
-/

namespace Templating

/-- A template in a value, and the names of the entries on the way to it. -/
structure Leaf where
  path : List String
  template : String

namespace Leaf

/-- The leaf as one of a map that has its value under `key`. -/
def under (key : String) (leaf : Leaf) : Leaf := ⟨key :: leaf.path, leaf.template⟩

/-- An error of the template as one of the whole value. -/
def wrap (leaf : Leaf) (error : TemplateError) : TemplateError :=
  leaf.path.foldr TemplateError.inVariable error

theorem root_wrap (leaf : Leaf) (error : TemplateError) : (leaf.wrap error).root = error.root := by
  unfold wrap
  induction leaf.path with
  | nil => rfl
  | cons key path ih => exact ih

end Leaf

namespace Value

mutual

/-- The templates in a value, down into nested maps; those in lists do not count. -/
def leaves : Value → List Leaf
  | string template => [⟨[], template⟩]
  | map entries => entryLeaves entries
  | _ => []

def entryLeaves : List (String × Value) → List Leaf
  | [] => []
  | (key, value) :: rest => value.leaves.map (Leaf.under key) ++ entryLeaves rest

end

mutual

/-- The value with other values in the places of its leaves. -/
def mapLeaves (change : String → Value) : Value → Value
  | string template => change template
  | map entries => map (mapEntryLeaves change entries)
  | value => value

def mapEntryLeaves (change : String → Value) : List (String × Value) → List (String × Value)
  | [] => []
  | (key, value) :: rest => (key, value.mapLeaves change) :: mapEntryLeaves change rest

end

end Value

namespace Engine

variable {engine : Engine} {scope : Bindings} {change : String → Value}

/-- Evaluates one template after the other. -/
def resolveLeaves (engine : Engine) (scope : Bindings) : List Leaf → Traced Unit
  | [] => .ok ()
  | leaf :: rest =>
      ((engine.resolveTemplate scope leaf.template).mapError leaf.wrap).andThen fun _ =>
        engine.resolveLeaves scope rest

theorem resolveLeaves_append (front back : List Leaf) :
    engine.resolveLeaves scope (front ++ back) =
      (engine.resolveLeaves scope front).andThen fun _ => engine.resolveLeaves scope back := by
  induction front with
  | nil => rw [List.nil_append, resolveLeaves, Traced.andThen_ok]
  | cons leaf rest ih =>
      rw [List.cons_append, resolveLeaves, resolveLeaves, ih, Traced.andThen_assoc]

theorem resolveLeaves_under (key : String) (leaves : List Leaf) :
    engine.resolveLeaves scope (leaves.map (Leaf.under key)) =
      (engine.resolveLeaves scope leaves).mapError (.inVariable key) := by
  induction leaves with
  | nil => rfl
  | cons leaf rest ih =>
      rw [List.map_cons, resolveLeaves, resolveLeaves, ih, Traced.mapError_andThen,
        Traced.mapError_mapError]
      rfl

theorem resolveLeaves_ok_iff (leaves : List Leaf) :
    (engine.resolveLeaves scope leaves).outcome = .ok () ↔
      ∀ leaf ∈ leaves, ∃ result,
        (engine.resolveTemplate scope leaf.template).outcome = .ok result := by
  induction leaves with
  | nil => exact ⟨fun _ leaf member => absurd member List.not_mem_nil, fun _ => rfl⟩
  | cons leaf rest ih =>
      rw [resolveLeaves, Traced.andThen_outcome, List.forall_mem_cons, ← ih]
      refine Outcome.bind_eq_ok_iff.trans ?_
      rw [exists_and_right]
      exact and_congr_left' (exists_congr fun result => Outcome.mapError_eq_ok_iff)

/-- The error is that of the first leaf whose template fails, wrapped in the names on the way. -/
theorem resolveLeaves_error_iff (leaves : List Leaf) (error : TemplateError) :
    (engine.resolveLeaves scope leaves).outcome = .error error ↔
      ∃ before leaf after inside, leaves = before ++ leaf :: after ∧
        (∀ earlier ∈ before, ∃ result,
          (engine.resolveTemplate scope earlier.template).outcome = .ok result) ∧
        (engine.resolveTemplate scope leaf.template).outcome = .error inside ∧
        error = leaf.wrap inside := by
  constructor
  · intro failed
    induction leaves with
    | nil => cases failed
    | cons leaf rest ih =>
        rw [resolveLeaves, Traced.andThen_outcome] at failed
        rcases Outcome.bind_eq_error_iff.mp failed with here | ⟨result, done, later⟩
        · obtain ⟨inside, fails, rfl⟩ := Outcome.mapError_eq_error_iff.mp here
          exact ⟨[], leaf, rest, inside, rfl, List.forall_mem_nil _, fails, rfl⟩
        · obtain ⟨before, failing, after, inside, rfl, fine, fails, rfl⟩ := ih later
          refine ⟨leaf :: before, failing, after, inside, rfl, ?_, fails, rfl⟩
          exact List.forall_mem_cons.mpr ⟨⟨result, Outcome.mapError_eq_ok_iff.mp done⟩, fine⟩
  · rintro ⟨before, leaf, after, inside, rfl, fine, fails, rfl⟩
    have front := (resolveLeaves_ok_iff before).mpr fine
    rw [resolveLeaves_append, Traced.andThen_of_ok front, resolveLeaves]
    exact congrArg Traced.outcome (Traced.andThen_of_error
      (Outcome.mapError_eq_error_iff.mpr ⟨inside, fails, rfl⟩) _)

/-- `change` has for the template of the leaf the value that it has in the scope, if any. -/
def Yields (engine : Engine) (scope : Bindings) (change : String → Value) (leaf : Leaf) : Prop :=
  ∀ result, (engine.resolveTemplate scope leaf.template).outcome = .ok result →
    change leaf.template = result

theorem exists_yields (engine : Engine) (scope : Bindings) :
    ∃ change, ∀ leaf, engine.Yields scope change leaf := by
  refine ⟨fun template => (engine.resolveTemplate scope template).outcome.toOption.getD .nil, ?_⟩
  intro leaf result done
  dsimp only
  rw [done]
  rfl

mutual

theorem resolveValue_eq : (value : Value) →
    (∀ leaf ∈ value.leaves, engine.Yields scope change leaf) →
      engine.resolveValue scope value =
        (engine.resolveLeaves scope value.leaves).map fun _ => value.mapLeaves change
  | .string template, yields => by
      have own := yields ⟨[], template⟩ List.mem_cons_self
      rw [Yields] at own
      rw [resolveValue, Value.leaves, resolveLeaves, resolveLeaves, Value.mapLeaves]
      dsimp only at own ⊢
      generalize engine.resolveTemplate scope template = run at own
      obtain ⟨outcome, calls⟩ := run
      cases outcome with
      | error error => rfl
      | ok result =>
          rw [own result rfl]
          exact congrArg (Traced.mk _) (List.append_nil calls).symm
  | .map entries, yields => by
      rw [Value.leaves] at yields ⊢
      rw [resolveValue, resolveEntries_eq entries yields, Value.mapLeaves, Traced.map_map]
  | .nil, _ => rfl
  | .bool _, _ => rfl
  | .int _, _ => rfl
  | .float _, _ => rfl
  | .list _, _ => rfl
  | .timestamp _, _ => rfl

theorem resolveEntries_eq : (entries : List (String × Value)) →
    (∀ leaf ∈ Value.entryLeaves entries, engine.Yields scope change leaf) →
      engine.resolveEntries scope entries =
        (engine.resolveLeaves scope (Value.entryLeaves entries)).map fun _ =>
          Value.mapEntryLeaves change entries
  | [], _ => rfl
  | (key, value) :: rest, yields => by
      rw [Value.entryLeaves] at yields ⊢
      obtain ⟨front, back⟩ := List.forall_mem_append.mp yields
      have own : ∀ leaf ∈ value.leaves, engine.Yields scope change leaf := fun leaf member =>
        front (leaf.under key) (List.mem_map_of_mem member)
      rw [resolveEntries, resolveValue_eq value own, resolveEntries_eq rest back,
        resolveLeaves_append, resolveLeaves_under, Value.mapEntryLeaves, Traced.mapError_map,
        Traced.andThen_map, Traced.map_map, Traced.map_andThen]

end

/-- The error of a value is that of one of its leaves, wrapped in the names on the way to it. -/
theorem exists_leaf_of_resolveValue {value : Value} {error : TemplateError}
    (failed : (engine.resolveValue scope value).outcome = .error error) :
    ∃ leaf ∈ value.leaves, ∃ inside,
      (engine.resolveTemplate scope leaf.template).outcome = .error inside ∧
        error = leaf.wrap inside := by
  obtain ⟨change, yields⟩ := exists_yields engine scope
  rw [resolveValue_eq value fun leaf _ => yields leaf] at failed
  have own := Outcome.map_eq_error_iff.mp failed
  obtain ⟨before, leaf, after, inside, split, -, fails, same⟩ :=
    (resolveLeaves_error_iff value.leaves error).mp own
  have member : leaf ∈ value.leaves := by
    rw [split]
    exact List.mem_append_right before List.mem_cons_self
  exact ⟨leaf, member, inside, fails, same⟩

theorem failsOnly_resolveValue (value : Value) :
    (engine.resolveValue scope value).FailsOnly
      (TemplateError.OfResolution engine.settings.strictSyntax) := by
  intro error failed
  obtain ⟨leaf, -, inside, fails, rfl⟩ := exists_leaf_of_resolveValue failed
  rw [TemplateError.OfResolution, Leaf.root_wrap]
  exact failsOnly_resolveTemplate leaf.template inside fails

/-- An error of a template is not wrapped. -/
theorem root_of_resolveTemplate {template : String} {error : TemplateError}
    (failed : (engine.resolveTemplate scope template).outcome = .error error) :
    error.root = error := by
  unfold resolveTemplate at failed
  split at failed
  next refusal refused =>
    obtain ⟨-, place, reason, rfl⟩ := Tokenizer.strict_of_tokenize_error refused
    cases failed
    rfl
  · cases failed
  · cases failed
  · exact (Evaluation.failsAt_of_renderValue _ failed).ofEvaluation.root_eq

/-- A value is resolved if each of its leaves is, and then it is the same but for the leaves, which
have their own values. If it is not, the error is that of the first leaf which fails, wrapped in the
names on the way to it. -/
theorem resolveValue_leafwise (engine : Engine) (scope : Bindings) (value : Value) :
    let outcome := (engine.resolveValue scope value).outcome
    let own := fun leaf : Leaf => (engine.resolveTemplate scope leaf.template).outcome
    ((∃ result, outcome = .ok result) ↔ ∀ leaf ∈ value.leaves, ∃ result, own leaf = .ok result) ∧
    (∀ change : String → Value,
      (∀ leaf ∈ value.leaves, own leaf = .ok (change leaf.template)) →
        outcome = .ok (value.mapLeaves change)) ∧
    (∀ error, outcome = .error error ↔
      ∃ before leaf after inside, value.leaves = before ++ leaf :: after ∧
        (∀ earlier ∈ before, ∃ result, own earlier = .ok result) ∧ own leaf = .error inside ∧
        error = leaf.path.foldr TemplateError.inVariable inside ∧ error.root = inside) := by
  intro outcome own
  have whole : ∀ change, (∀ leaf ∈ value.leaves, engine.Yields scope change leaf) →
      outcome = (engine.resolveLeaves scope value.leaves).outcome.map fun _ =>
        value.mapLeaves change := fun change yields =>
    congrArg Traced.outcome (resolveValue_eq value yields)
  -- Some change has the right value for every leaf that has one, also if another leaf fails.
  obtain ⟨known, yields⟩ := exists_yields engine scope
  have resolved := whole known fun leaf _ => yields leaf
  refine ⟨?_, ?_, ?_⟩
  · rw [resolved, ← resolveLeaves_ok_iff]
    constructor
    · rintro ⟨result, done⟩
      obtain ⟨⟨⟩, ran, -⟩ := Outcome.map_eq_ok_iff.mp done
      exact ran
    · intro done
      exact ⟨_, Outcome.map_eq_ok_iff.mpr ⟨(), done, rfl⟩⟩
  · intro change each
    have done := (resolveLeaves_ok_iff value.leaves).mpr fun leaf member =>
      ⟨_, each leaf member⟩
    rw [whole change fun leaf member result found => ?_]
    · exact Outcome.map_eq_ok_iff.mpr ⟨(), done, rfl⟩
    · exact Except.ok.inj ((each leaf member).symm.trans found)
  · intro error
    rw [resolved]
    refine Outcome.map_eq_error_iff.trans ((resolveLeaves_error_iff _ _).trans ?_)
    constructor
    · rintro ⟨before, leaf, after, inside, split, fine, fails, rfl⟩
      refine ⟨before, leaf, after, inside, split, fine, fails, rfl, ?_⟩
      rw [Leaf.root_wrap, root_of_resolveTemplate fails]
    · rintro ⟨before, leaf, after, inside, split, fine, fails, wrapped, -⟩
      exact ⟨before, leaf, after, inside, split, fine, fails, wrapped⟩

/-- A template in a list is left alone, and one in a nested map fails before the last one is
evaluated. -/
theorem resolveValue_leafwise_nested :
    let engine : Engine := ⟨.empty, {}, .epoch⟩
    let scope : Bindings := .ofPairs [("zone", .string "eu")]
    let zone : Value := .string "\x7b\x7b zone \x7d\x7d"
    let host : Value := .string "\x7b\x7b host \x7d\x7d"
    let whole : Value := .map [("near", zone), ("items", .list [host]), ("count", .int 3)]
    let inner : Value := .map [("items", .list [host]), ("far", host)]
    let broken : Value := .map [("near", zone), ("inner", inner), ("last", zone)]
    (engine.resolveValue scope whole).outcome =
        .ok (.map [("near", .string "eu"), ("items", .list [host]), ("count", .int 3)]) ∧
      (engine.resolveValue scope broken).outcome =
        .error (.inVariable "inner" (.inVariable "far" (.variableNotFound "host"))) := by
  intro engine scope zone host whole inner broken
  have readZone : engine.tokenizer.tokenize "\x7b\x7b zone \x7d\x7d" = .ok [.plain "zone"] :=
    Tokenizer.tokenize_single " zone ".toList (by decide) (by decide) rfl rfl
  have readHost : engine.tokenizer.tokenize "\x7b\x7b host \x7d\x7d" = .ok [.plain "host"] :=
    Tokenizer.tokenize_single " host ".toList (by decide) (by decide) rfl rfl
  have zoneValue : (engine.resolveTemplate scope "\x7b\x7b zone \x7d\x7d").outcome =
      .ok (.string "eu") := by
    rw [resolveTemplate, readZone]
    rfl
  have hostError : (engine.resolveTemplate scope "\x7b\x7b host \x7d\x7d").outcome =
      .error (.variableNotFound "host") := by
    rw [resolveTemplate, readHost]
    rfl
  obtain ⟨-, replaced, -⟩ := resolveValue_leafwise engine scope whole
  obtain ⟨-, -, failed⟩ := resolveValue_leafwise engine scope broken
  refine ⟨replaced (fun _ => .string "eu") ?_, (failed _).mpr ?_⟩
  · exact List.forall_mem_singleton.mpr zoneValue
  · refine ⟨[⟨["near"], "\x7b\x7b zone \x7d\x7d"⟩],
      ⟨["inner", "far"], "\x7b\x7b host \x7d\x7d"⟩, [⟨["last"], "\x7b\x7b zone \x7d\x7d"⟩],
      .variableNotFound "host", rfl, ?_, hostError, rfl, rfl⟩
    exact List.forall_mem_singleton.mpr ⟨_, zoneValue⟩

end Engine

end Templating
