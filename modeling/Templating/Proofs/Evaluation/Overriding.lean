import Templating.Proofs.Evaluation.Agreement
import Templating.Proofs.NameMap.Lookup

/-!
# Overriding filters

A registry that is laid over another wins under each of its names, with the filter and with its
kind. An evaluation looks only at the names that the template calls, so a template that names no
filter of the upper registry is evaluated as before, and one that names no other filter as with the
upper registry alone.
-/

namespace Templating

namespace Registry

variable {defaults overrides : Registry} {name : String}

/-- The registry whose registration of the name wins. -/
def winning (defaults overrides : Registry) (name : String) : Registry :=
  if overrides.contains name then overrides else defaults

theorem get?_merged : (defaults.merged overrides).get? name =
    (overrides.get? name).or (defaults.get? name) :=
  NameMap.get?_extend

theorem get?_merged_of_contains (contained : overrides.contains name = true) :
    (defaults.merged overrides).get? name = overrides.get? name := by
  rw [get?_merged, Option.or_of_isSome contained]

theorem get?_merged_of_not_contains (absent : overrides.contains name = false) :
    (defaults.merged overrides).get? name = defaults.get? name := by
  have none : overrides.get? name = none := by simpa [contains] using absent
  rw [get?_merged, none, Option.none_or]

theorem agreeOn_defaults {names : List String}
    (absent : ∀ name ∈ names, overrides.contains name = false) :
    AgreeOn names (defaults.merged overrides) defaults :=
  fun name member => get?_merged_of_not_contains (absent name member)

theorem agreeOn_overrides {names : List String}
    (contained : ∀ name ∈ names, overrides.contains name = true) :
    AgreeOn names (defaults.merged overrides) overrides :=
  fun name member => get?_merged_of_contains (contained name member)

theorem get?_merged_eq_winning (defaults overrides : Registry) (name : String) :
    (defaults.merged overrides).get? name = (winning defaults overrides name).get? name := by
  rw [winning]
  split
  case isTrue contained => exact get?_merged_of_contains contained
  case isFalse absent => exact get?_merged_of_not_contains (Bool.eq_false_iff.mpr absent)

theorem isFallback_merged (defaults overrides : Registry) (name : String) :
    (defaults.merged overrides).isFallback name =
      (winning defaults overrides name).isFallback name :=
  isFallback_congr (get?_merged_eq_winning defaults overrides name)

theorem merged_empty (registry : Registry) : registry.merged .empty = registry := rfl

theorem empty_merged (registry : Registry) : empty.merged registry = registry :=
  congrArg Registry.mk (NameMap.empty_extend registry.filters)

theorem merged_assoc (defaults overrides last : Registry) :
    (defaults.merged overrides).merged last = defaults.merged (overrides.merged last) :=
  congrArg Registry.mk (NameMap.extend_assoc defaults.filters overrides.filters last.filters)

end Registry

namespace Evaluation

theorem renders_alike {first second : Registry} {tokens : List Token}
    (filters : Registry.AgreeOn (tokens.flatMap Token.filterNames) first second)
    (scope : Bindings) :
    render first scope tokens = render second scope tokens ∧
      renderValue first scope tokens = renderValue second scope tokens :=
  ⟨render_congr tokens filters (.refl _ scope), renderValue_congr tokens filters (.refl _ scope)⟩

/-- Filters laid over others change only the templates that name one of them, and these follow the
registration that wins, also in whether a pipeline has a fallback filter. How merging is bracketed
does not matter, and the empty registry adds nothing. A registry is a value and merging makes a new
one: laid over the result again, either source behaves as it did alone. -/
theorem merged_evaluation (defaults overrides : Registry) :
    (∀ (tokens : List Token) (scope : Bindings),
      (∀ name ∈ tokens.flatMap Token.filterNames, overrides.contains name = false) →
        render (defaults.merged overrides) scope tokens = render defaults scope tokens ∧
        renderValue (defaults.merged overrides) scope tokens =
          renderValue defaults scope tokens) ∧
    (∀ (tokens : List Token) (scope : Bindings),
      (∀ name ∈ tokens.flatMap Token.filterNames, overrides.contains name = true) →
        render (defaults.merged overrides) scope tokens = render overrides scope tokens ∧
        renderValue (defaults.merged overrides) scope tokens =
          renderValue overrides scope tokens) ∧
    (∀ calls : List FilterCall,
      (∀ call ∈ calls,
        (defaults.merged overrides).get? call.name =
          (Registry.winning defaults overrides call.name).get? call.name ∧
        (defaults.merged overrides).isFallback call.name =
          (Registry.winning defaults overrides call.name).isFallback call.name) ∧
      isCovered (defaults.merged overrides) calls = calls.any fun call =>
        (Registry.winning defaults overrides call.name).isFallback call.name) ∧
    (∀ last : Registry,
      (defaults.merged overrides).merged last = defaults.merged (overrides.merged last)) ∧
    Registry.empty.merged defaults = defaults ∧ defaults.merged .empty = defaults ∧
    ∀ source ∈ [defaults, overrides], ∀ (tokens : List Token) (scope : Bindings),
      (∀ name ∈ tokens.flatMap Token.filterNames, source.contains name = true) →
        render ((defaults.merged overrides).merged source) scope tokens =
          render source scope tokens ∧
        renderValue ((defaults.merged overrides).merged source) scope tokens =
          renderValue source scope tokens := by
  have lastWins : ∀ (first last : Registry) (tokens : List Token) (scope : Bindings),
      (∀ name ∈ tokens.flatMap Token.filterNames, last.contains name = true) →
        render (first.merged last) scope tokens = render last scope tokens ∧
        renderValue (first.merged last) scope tokens = renderValue last scope tokens :=
    fun first last tokens scope contained =>
      renders_alike (Registry.agreeOn_overrides contained) scope
  refine ⟨fun tokens scope absent => ?_, lastWins defaults overrides, fun calls => ⟨?_, ?_⟩,
    defaults.merged_assoc overrides, defaults.empty_merged, defaults.merged_empty, ?_⟩
  · exact renders_alike (Registry.agreeOn_defaults absent) scope
  · intro call _
    exact ⟨Registry.get?_merged_eq_winning defaults overrides call.name,
      Registry.isFallback_merged defaults overrides call.name⟩
  · simp only [isCovered, Registry.isFallback_merged]
  · intro source _
    exact lastWins (defaults.merged overrides) source

/-- The filter that is laid over the default has the other kind. A template without it is evaluated
as before, one with it alone follows the new filter, and a pipeline with both filters is no longer
covered, so the error that the default mended is raised. -/
theorem merged_evaluation_kind :
    let decline : Filter := .transform fun _ _ => .error (.allowsDefault "declined")
    let defaults : Registry := .ofPairs [("require", decline),
      ("default", .fallback fun _ _ => .ok (.string "spare"))]
    let overrides : Registry := .ofPairs [("default", .transform fun _ _ => .ok (.string "new"))]
    let require : FilterCall := ⟨"require", []⟩
    let default : FilterCall := ⟨"default", []⟩
    let only : List Token := [.filtered "x | require" ⟨"x", [require]⟩]
    let named : List Token := [.text "at ", .filtered "x | default" ⟨"x", [default]⟩]
    let mixed : List Token := [.filtered "x | require | default" ⟨"x", [require, default]⟩]
    (∀ name ∈ only.flatMap Token.filterNames, overrides.contains name = false) ∧
      renderValue (defaults.merged overrides) .empty only = renderValue defaults .empty only ∧
      (renderValue defaults .empty only).outcome = .error (.variableNotFound "x") ∧
      (∀ name ∈ named.flatMap Token.filterNames, overrides.contains name = true) ∧
      render (defaults.merged overrides) .empty named = render overrides .empty named ∧
      (render overrides .empty named).outcome = .ok "at new" ∧
      (defaults.merged overrides).isFallback default.name =
        (Registry.winning defaults overrides default.name).isFallback default.name ∧
      (renderValue defaults .empty mixed).outcome = .ok (.string "spare") ∧
      (renderValue (defaults.merged overrides) .empty mixed).outcome =
        .error (.variableNotFound "x") ∧
      (∀ name ∈ mixed.flatMap Token.filterNames, defaults.contains name = true) ∧
      renderValue ((defaults.merged overrides).merged defaults) .empty mixed =
        renderValue defaults .empty mixed := by
  intro decline defaults overrides require default only named mixed
  obtain ⟨frame, follows, kinds, -, -, -, again⟩ := merged_evaluation defaults overrides
  have absent : ∀ name ∈ only.flatMap Token.filterNames, overrides.contains name = false := by
    decide
  have contained : ∀ name ∈ named.flatMap Token.filterNames, overrides.contains name = true := by
    decide
  have own : ∀ name ∈ mixed.flatMap Token.filterNames, defaults.contains name = true := by decide
  have member : default ∈ [require, default] := List.mem_cons_of_mem _ List.mem_cons_self
  exact ⟨absent, (frame only .empty absent).2, rfl, contained, (follows named .empty contained).1,
    rfl, ((kinds [require, default]).1 default member).2, rfl, rfl, own,
    (again defaults List.mem_cons_self mixed .empty own).2⟩

end Evaluation

end Templating
