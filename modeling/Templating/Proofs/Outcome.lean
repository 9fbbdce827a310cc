import Templating.Traced

/-!
# Outcomes taken apart

What is known of an outcome that was changed or gone on with, once it is known to be a value or an
error, and how changes of a result follow one another.
-/

namespace Templating

universe u v w x

attribute [ext] Traced

namespace Traced

variable {α : Type u} {β : Type v} {γ : Type w}

/-- What follows a result is asked for no value but the one that it has. -/
theorem andThen_congr {first : Traced α} {next other : α → Traced β}
    (same : ∀ value, first.outcome = .ok value → next value = other value) :
    first.andThen next = first.andThen other := by
  cases done : first.outcome with
  | error error => rw [andThen_of_error done, andThen_of_error done]
  | ok value => rw [andThen_of_ok done, andThen_of_ok done, same value done]

theorem andThen_map (change : α → β) (first : Traced α) (next : β → Traced γ) :
    (first.map change).andThen next = first.andThen fun value => next (change value) := by
  obtain ⟨outcome, calls⟩ := first
  cases outcome <;> rfl

theorem map_id (first : Traced α) : (first.map fun value => value) = first := by
  obtain ⟨outcome, calls⟩ := first
  cases outcome <;> rfl

theorem map_map (change : α → β) (after : β → γ) (first : Traced α) :
    (first.map change).map after = first.map fun value => after (change value) := by
  obtain ⟨outcome, calls⟩ := first
  cases outcome <;> rfl

theorem mapError_map (change : α → β) (wrap : TemplateError → TemplateError) (first : Traced α) :
    (first.map change).mapError wrap = (first.mapError wrap).map change := by
  obtain ⟨outcome, calls⟩ := first
  cases outcome <;> rfl

theorem mapError_mapError (inner outer : TemplateError → TemplateError) (first : Traced α) :
    (first.mapError inner).mapError outer = first.mapError fun error => outer (inner error) := by
  obtain ⟨outcome, calls⟩ := first
  cases outcome <;> rfl

theorem mapError_andThen (wrap : TemplateError → TemplateError) (first : Traced α)
    (next : α → Traced β) :
    (first.andThen next).mapError wrap =
      (first.mapError wrap).andThen fun value => (next value).mapError wrap := by
  obtain ⟨outcome, calls⟩ := first
  cases outcome <;> rfl

end Traced

end Templating

namespace Templating.Outcome

universe u v w x

variable {ε : Type u} {δ : Type v} {α : Type w} {β : Type x}

theorem map_eq_ok_iff {outcome : Except ε α} {change : α → β} {result : β} :
    outcome.map change = .ok result ↔ ∃ value, outcome = .ok value ∧ change value = result := by
  cases outcome <;> simp [Except.map]

theorem map_eq_error_iff {outcome : Except ε α} {change : α → β} {error : ε} :
    outcome.map change = .error error ↔ outcome = .error error := by
  cases outcome <;> simp [Except.map]

theorem mapError_eq_ok_iff {outcome : Except ε α} {change : ε → δ} {value : α} :
    outcome.mapError change = .ok value ↔ outcome = .ok value := by
  constructor
  · intro kept
    cases outcome with
    | error _ => cases kept
    | ok old => exact congrArg Except.ok (Except.ok.inj kept)
  · rintro rfl
    rfl

theorem mapError_eq_error_iff {outcome : Except ε α} {change : ε → δ} {error : δ} :
    outcome.mapError change = .error error ↔
      ∃ inside, outcome = .error inside ∧ change inside = error := by
  constructor
  · intro changed
    cases outcome with
    | error inside => exact ⟨inside, rfl, Except.error.inj changed⟩
    | ok _ => cases changed
  · rintro ⟨inside, rfl, rfl⟩
    rfl

theorem bind_eq_ok_iff {outcome : Except ε α} {next : α → Except ε β} {result : β} :
    outcome.bind next = .ok result ↔ ∃ value, outcome = .ok value ∧ next value = .ok result := by
  cases outcome <;> simp [Except.bind]

theorem bind_eq_error_iff {outcome : Except ε α} {next : α → Except ε β} {error : ε} :
    outcome.bind next = .error error ↔
      outcome = .error error ∨ ∃ value, outcome = .ok value ∧ next value = .error error := by
  cases outcome <;> simp [Except.bind]

end Templating.Outcome
