import Templating.Filter.Builtin
import Templating.Proofs.NameMap.Lookup
import Templating.Proofs.Outcome

/-!
# Built-in filters and nil

A filter that takes some value with given arguments, but cannot do anything with nil, is to say so
by an error that a later fallback may mend. Each built-in filter does but one: the comparison takes
nil for a value of the wrong kind.
-/

namespace Templating

namespace Filter

/-! ## Falling through -/

variable {α : Type} {apply : Value → List Value → Except FilterError Value}
  {check : List Value → Except FilterError α}
  {body : α → Value → List Value → Except FilterError Value}

/-- A value, or an error that allows a default. -/
def Mendable (outcome : Except FilterError Value) : Prop :=
  (∃ out, outcome = .ok out) ∨ ∃ reason, outcome = .error (.allowsDefault reason)

/-- With arguments that the filter takes for some value, nil gives a value or allows a default. -/
def FallsThrough (apply : Value → List Value → Except FilterError Value) : Prop :=
  ∀ arguments, (∃ value out, value ≠ .nil ∧ apply value arguments = .ok out) →
    Mendable (apply .nil arguments)

theorem mendable_ok (out : Value) : Mendable (.ok out) := .inl ⟨out, rfl⟩

theorem mendable_nilInput : Mendable (.error nilInput) := .inr ⟨_, rfl⟩

/-- Nil is the first thing that the filter looks at. -/
theorem fallsThrough_of_nil (nil : ∀ arguments, Mendable (apply .nil arguments)) :
    FallsThrough apply :=
  fun arguments _ => nil arguments

/-- The filter looks at its arguments first; those that are refused are refused for every value. -/
theorem FallsThrough.afterCheck (later : ∀ checked, FallsThrough (body checked)) :
    FallsThrough fun value arguments =>
      (check arguments).bind fun checked => body checked value arguments := by
  rintro arguments ⟨value, out, solid, taken⟩
  obtain ⟨checked, accepted, rest⟩ := Outcome.bind_eq_ok_iff.mp taken
  have nil := later checked arguments ⟨value, out, solid, rest⟩
  change Mendable ((check arguments).bind _)
  rw [accepted]
  exact nil

/-! ## Filters that look at their arguments -/

theorem fallsThrough_find : FallsThrough find :=
  FallsThrough.afterCheck fun _ => FallsThrough.afterCheck fun _ =>
    fallsThrough_of_nil fun _ => mendable_nilInput

theorem fallsThrough_wrap : FallsThrough wrap :=
  FallsThrough.afterCheck fun _ => fallsThrough_of_nil fun _ => mendable_ok _

theorem fallsThrough_index : FallsThrough index :=
  FallsThrough.afterCheck fun _ => fallsThrough_of_nil fun _ => mendable_nilInput

theorem fallsThrough_json : FallsThrough json := by
  refine fallsThrough_of_nil fun arguments => ?_
  rw [json]
  split
  next => exact mendable_ok _
  next => exact mendable_ok _

theorem fallsThrough_parse : FallsThrough parse :=
  FallsThrough.afterCheck fun _ => fallsThrough_of_nil fun _ => mendable_nilInput

theorem fallsThrough_equal : FallsThrough equal := by
  refine FallsThrough.afterCheck fun other => fallsThrough_of_nil fun _ => ?_
  split
  next => exact mendable_ok _
  next => exact mendable_ok _

theorem fallsThrough_default : FallsThrough default :=
  FallsThrough.afterCheck fun _ => fallsThrough_of_nil fun _ => mendable_ok _

/-- The pattern is checked before the value unless it is left out. -/
theorem fallsThrough_format : FallsThrough format := by
  rintro arguments ⟨value, out, solid, taken⟩
  rw [format] at taken ⊢
  split
  next => exact mendable_nilInput
  next given =>
    rw [if_neg given] at taken
    obtain ⟨pattern, accepted, _⟩ := Outcome.bind_eq_ok_iff.mp taken
    rw [accepted]
    exact mendable_nilInput

/-- Nil is refused like a value of the wrong kind. -/
theorem greater_nil (arguments : List Value) :
    greater .nil arguments = .error (.invalidValue "number" "nil") := rfl

theorem not_fallsThrough_greater : ¬ FallsThrough greater := by
  intro falls
  have taken : ∃ value out, value ≠ Value.nil ∧ greater value [.int 1] = .ok out :=
    ⟨.int 2, _, Value.noConfusion, rfl⟩
  rcases falls [.int 1] taken with ⟨out, kept⟩ | ⟨reason, mended⟩
  · rw [greater_nil] at kept
    cases kept
  · rw [greater_nil] at mended
    cases mended

end Filter

namespace Registry

open Templating.Filter (transform fallback)

variable {name : String} {filter : Filter} {motive : String → Filter → Prop}

/-- A proof about the built-in filters goes by their table. -/
theorem of_builtin (found : builtin.get? name = some filter)
    (trim : motive "trim" (transform Filter.trim))
    (shorten : motive "shorten" (transform Filter.shorten))
    (length : motive "length" (transform Filter.length))
    (lines : motive "lines" (transform Filter.lines))
    (join : motive "join" (transform Filter.join))
    (split : motive "split" (transform Filter.split))
    (concat : motive "concat" (transform Filter.concat))
    (slug : motive "slug" (transform Filter.slug))
    (title : motive "title" (transform Filter.title))
    (upper : motive "upper" (transform Filter.upper))
    (lower : motive "lower" (transform Filter.lower))
    (first : motive "first" (transform Filter.first))
    (key : motive "key" (transform Filter.key))
    (find : motive "find" (transform Filter.find))
    (wrap : motive "wrap" (transform Filter.wrap))
    (index : motive "map" (transform Filter.index))
    (json : motive "json" (transform Filter.json))
    (yaml : motive "yaml" (transform Filter.yaml))
    (parse : motive "from" (transform Filter.parse))
    (equal : motive "eq" (transform Filter.equal))
    (greater : motive "gt" (transform Filter.greater))
    (negate : motive "not" (transform Filter.negate))
    (format : motive "format" (transform Filter.format))
    (default : motive "default" (fallback Filter.default)) : motive name filter := by
  have listed := (NameMap.get?_ofPairs_iff (by decide)).mp found
  simp only [List.mem_cons, List.not_mem_nil, or_false, Prod.mk.injEq] at listed
  rcases listed with ⟨rfl, rfl⟩ | ⟨rfl, rfl⟩ | ⟨rfl, rfl⟩ | ⟨rfl, rfl⟩ | ⟨rfl, rfl⟩ | ⟨rfl, rfl⟩ |
    ⟨rfl, rfl⟩ | ⟨rfl, rfl⟩ | ⟨rfl, rfl⟩ | ⟨rfl, rfl⟩ | ⟨rfl, rfl⟩ | ⟨rfl, rfl⟩ | ⟨rfl, rfl⟩ |
    ⟨rfl, rfl⟩ | ⟨rfl, rfl⟩ | ⟨rfl, rfl⟩ | ⟨rfl, rfl⟩ | ⟨rfl, rfl⟩ | ⟨rfl, rfl⟩ | ⟨rfl, rfl⟩ |
    ⟨rfl, rfl⟩ | ⟨rfl, rfl⟩ | ⟨rfl, rfl⟩ | ⟨rfl, rfl⟩
  all_goals assumption

theorem fallsThrough_builtin_iff (found : builtin.get? name = some filter) :
    Filter.FallsThrough filter.apply ↔ name ≠ "gt" := by
  apply of_builtin found
  case greater => exact iff_of_false Filter.not_fallsThrough_greater fun other => other rfl
  case find => exact iff_of_true Filter.fallsThrough_find (by decide)
  case wrap => exact iff_of_true Filter.fallsThrough_wrap (by decide)
  case index => exact iff_of_true Filter.fallsThrough_index (by decide)
  case json => exact iff_of_true Filter.fallsThrough_json (by decide)
  case parse => exact iff_of_true Filter.fallsThrough_parse (by decide)
  case equal => exact iff_of_true Filter.fallsThrough_equal (by decide)
  case format => exact iff_of_true Filter.fallsThrough_format (by decide)
  case default => exact iff_of_true Filter.fallsThrough_default (by decide)
  case yaml | negate =>
    exact iff_of_true (Filter.fallsThrough_of_nil fun _ => Filter.mendable_ok _) (by decide)
  -- The others ask for a value before anything else.
  all_goals
    exact iff_of_true (Filter.fallsThrough_of_nil fun _ => Filter.mendable_nilInput) (by decide)

theorem fallsThrough_builtin_from :
    builtin.get? "from" = some (transform Filter.parse) ∧
      (Filter.FallsThrough (transform Filter.parse).apply ↔ "from" ≠ "gt") :=
  ⟨rfl, fallsThrough_builtin_iff rfl⟩

theorem not_forall_builtin_fallsThrough :
    ¬ ∀ name filter, builtin.get? name = some filter → Filter.FallsThrough filter.apply := by
  intro every
  exact Filter.not_fallsThrough_greater (every "gt" (transform Filter.greater) rfl)

end Registry

end Templating
