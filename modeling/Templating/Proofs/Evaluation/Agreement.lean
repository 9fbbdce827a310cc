import Templating.Proofs.Evaluation.Pipeline

/-!
# Evaluations that agree

An evaluation looks into the registry only at the names of the filters that are called, for their
kinds and for the filters themselves, and into the scope only at the names that are referred to. If
two registries and two scopes agree on these names, the evaluations have the same outcome and make
the same calls.
-/

namespace Templating

/-- Both scopes have the same value, or none, under each of the names. -/
def Bindings.AgreeOn (names : List String) (first second : Bindings) : Prop :=
  ∀ name ∈ names, first.get? name = second.get? name

/-- Both registries have the same filter, or none, under each of the names. -/
def Registry.AgreeOn (names : List String) (first second : Registry) : Prop :=
  ∀ name ∈ names, first.get? name = second.get? name

section Parts

variable {front back : List String}

namespace Bindings.AgreeOn

variable {first second : Bindings}

theorem refl (names : List String) (scope : Bindings) : AgreeOn names scope scope :=
  fun _ _ => rfl

theorem left (agree : AgreeOn (front ++ back) first second) : AgreeOn front first second :=
  fun name member => agree name (List.mem_append_left back member)

theorem right (agree : AgreeOn (front ++ back) first second) : AgreeOn back first second :=
  fun name member => agree name (List.mem_append_right front member)

end Bindings.AgreeOn

namespace Registry.AgreeOn

variable {first second : Registry}

theorem refl (names : List String) (registry : Registry) : AgreeOn names registry registry :=
  fun _ _ => rfl

theorem left (agree : AgreeOn (front ++ back) first second) : AgreeOn front first second :=
  fun name member => agree name (List.mem_append_left back member)

theorem right (agree : AgreeOn (front ++ back) first second) : AgreeOn back first second :=
  fun name member => agree name (List.mem_append_right front member)

end Registry.AgreeOn

end Parts

/-- The names of the filters that the value of the token calls. -/
def Token.filterNames : Token → List String
  | filtered _ pipeline => pipeline.calls.map FilterCall.name
  | _ => []

namespace Registry

variable {first second : Registry} {name : String}

theorem isFallback_congr (same : first.get? name = second.get? name) :
    first.isFallback name = second.isFallback name := by
  rw [isFallback, isFallback, same]

end Registry

namespace Evaluation

variable {first second : Registry} {scope scope' : Bindings} {name : String} {covered : Bool}

theorem argumentValues_congr (arguments : List Argument)
    (agree : Bindings.AgreeOn (arguments.filterMap Argument.reference?) scope scope') :
    argumentValues scope arguments = argumentValues scope' arguments := by
  induction arguments with
  | nil => rfl
  | cons argument rest ih =>
      cases argument with
      | literal literal =>
          rw [argumentValues, argumentValues, ih agree]
      | reference name =>
          have here := agree name List.mem_cons_self
          have later := ih fun other member => agree other (List.mem_cons_of_mem _ member)
          rw [argumentValues, argumentValues, here, later]

theorem isCovered_congr {calls : List FilterCall}
    (filters : Registry.AgreeOn (calls.map FilterCall.name) first second) :
    isCovered first calls = isCovered second calls := by
  rw [Bool.eq_iff_iff, isCovered, isCovered, List.any_eq_true, List.any_eq_true]
  refine exists_congr fun call => and_congr_right fun member => ?_
  rw [Registry.isFallback_congr (filters call.name (List.mem_map_of_mem member))]

theorem applyCall_congr {progress : Progress} (call : FilterCall)
    (same : first.get? call.name = second.get? call.name)
    (agree : Bindings.AgreeOn call.references scope scope') :
    applyCall first scope name covered progress call =
      applyCall second scope' name covered progress call := by
  rw [applyCall, applyCall, same, argumentValues_congr call.arguments agree]

theorem applyCalls_congr (progress : Progress) (calls : List FilterCall)
    (filters : Registry.AgreeOn (calls.map FilterCall.name) first second)
    (agree : Bindings.AgreeOn (calls.flatMap FilterCall.references) scope scope') :
    applyCalls first scope name covered progress calls =
      applyCalls second scope' name covered progress calls := by
  induction calls generalizing progress with
  | nil => rfl
  | cons call rest ih =>
      rw [List.flatMap_cons] at agree
      have here := filters call.name List.mem_cons_self
      have later : Registry.AgreeOn (rest.map FilterCall.name) first second :=
        fun other member => filters other (List.mem_cons_of_mem _ member)
      rw [applyCalls, applyCalls, applyCall_congr call here agree.left]
      exact congrArg _ (funext fun next => ih next later agree.right)

theorem pipelineValue_congr (pipeline : Pipeline)
    (filters : Registry.AgreeOn (pipeline.calls.map FilterCall.name) first second)
    (agree : Bindings.AgreeOn pipeline.references scope scope') :
    pipelineValue first scope pipeline = pipelineValue second scope' pipeline := by
  have base := agree pipeline.name List.mem_cons_self
  have calls : Bindings.AgreeOn (pipeline.calls.flatMap FilterCall.references) scope scope' :=
    fun other member => agree other (List.mem_cons_of_mem _ member)
  rw [pipelineValue_eq, pipelineValue_eq, base, isCovered_congr filters,
    applyCalls_congr _ pipeline.calls filters calls]

theorem tokenValue_congr (token : Token)
    (filters : Registry.AgreeOn token.filterNames first second)
    (agree : Bindings.AgreeOn token.references scope scope') :
    tokenValue first scope token = tokenValue second scope' token := by
  cases token with
  | plain name => rw [tokenValue, tokenValue, agree name List.mem_cons_self]
  | filtered raw pipeline => exact pipelineValue_congr pipeline filters agree
  | _ => rfl

theorem tokenText_congr (token : Token)
    (filters : Registry.AgreeOn token.filterNames first second)
    (agree : Bindings.AgreeOn token.references scope scope') :
    tokenText first scope token = tokenText second scope' token := by
  have value : tokenValue first scope token = tokenValue second scope' token :=
    tokenValue_congr token filters agree
  cases token with
  | plain name => simp only [tokenText, value]
  | filtered raw pipeline => simp only [tokenText, value]
  | _ => rfl

theorem render_congr (tokens : List Token)
    (filters : Registry.AgreeOn (tokens.flatMap Token.filterNames) first second)
    (agree : Bindings.AgreeOn (tokens.flatMap Token.references) scope scope') :
    render first scope tokens = render second scope' tokens := by
  induction tokens with
  | nil => rfl
  | cons token rest ih =>
      rw [List.flatMap_cons] at filters agree
      rw [render, render, tokenText_congr token filters.left agree.left,
        ih filters.right agree.right]

theorem renderValue_congr (tokens : List Token)
    (filters : Registry.AgreeOn (tokens.flatMap Token.filterNames) first second)
    (agree : Bindings.AgreeOn (tokens.flatMap Token.references) scope scope') :
    renderValue first scope tokens = renderValue second scope' tokens := by
  have whole : render first scope tokens = render second scope' tokens :=
    render_congr tokens filters agree
  match tokens with
  | [] => rfl
  | [token] =>
      rw [List.flatMap_singleton] at filters agree
      simp only [renderValue, tokenValue_congr token filters agree, whole]
  | token :: other :: rest => rw [renderValue, renderValue, whole] <;> simp

/-! ## In one registry -/

variable {registry : Registry}

theorem applyCalls_agreeOn (progress : Progress) (calls : List FilterCall)
    (agree : Bindings.AgreeOn (calls.flatMap FilterCall.references) scope scope') :
    applyCalls registry scope name covered progress calls =
      applyCalls registry scope' name covered progress calls :=
  applyCalls_congr progress calls (.refl _ registry) agree

theorem tokenValue_agreeOn (token : Token)
    (agree : Bindings.AgreeOn token.references scope scope') :
    tokenValue registry scope token = tokenValue registry scope' token :=
  tokenValue_congr token (.refl _ registry) agree

theorem render_agreeOn (tokens : List Token)
    (agree : Bindings.AgreeOn (tokens.flatMap Token.references) scope scope') :
    render registry scope tokens = render registry scope' tokens :=
  render_congr tokens (.refl _ registry) agree

theorem renderValue_agreeOn (tokens : List Token)
    (agree : Bindings.AgreeOn (tokens.flatMap Token.references) scope scope') :
    renderValue registry scope tokens = renderValue registry scope' tokens :=
  renderValue_congr tokens (.refl _ registry) agree

end Evaluation

end Templating
