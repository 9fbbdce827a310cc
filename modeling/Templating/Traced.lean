import Templating.Error
import Templating.Value

/-!
# Results with their filter calls

An evaluation has an outcome and the filter calls that it made, in order. The calls made before an
error stay.
-/

namespace Templating

universe u v w

/-- One call of a filter, and whether the run is asked to stop after it. -/
structure Call where
  name : String
  input : Value
  arguments : List Value
  cancels : Bool

structure Traced (α : Type u) where
  outcome : Except TemplateError α
  calls : List Call

namespace Traced

variable {α : Type u} {β : Type v}

def ok (value : α) : Traced α := ⟨.ok value, []⟩

def fail (error : TemplateError) : Traced α := ⟨.error error, []⟩

/-- Goes on with a value; the calls follow one another. -/
def andThen (first : Traced α) (next : α → Traced β) : Traced β :=
  match first.outcome with
  | .ok value => ⟨(next value).outcome, first.calls ++ (next value).calls⟩
  | .error error => ⟨.error error, first.calls⟩

def map (change : α → β) (first : Traced α) : Traced β :=
  ⟨first.outcome.map change, first.calls⟩

def mapError (change : TemplateError → TemplateError) (first : Traced α) : Traced α :=
  ⟨first.outcome.mapError change, first.calls⟩

/-- Whether a call asked the run to stop. -/
def cancels (first : Traced α) : Bool := first.calls.any Call.cancels

theorem andThen_outcome (first : Traced α) (next : α → Traced β) :
    (first.andThen next).outcome = first.outcome.bind fun value => (next value).outcome := by
  unfold andThen
  cases first.outcome <;> rfl

theorem andThen_ok (value : α) (next : α → Traced β) : (ok value).andThen next = next value := by
  simp [andThen, ok]

theorem andThen_of_ok {first : Traced α} {value : α} (done : first.outcome = .ok value)
    (next : α → Traced β) :
    first.andThen next = ⟨(next value).outcome, first.calls ++ (next value).calls⟩ := by
  rw [andThen, done]

theorem andThen_of_error {first : Traced α} {error : TemplateError}
    (failed : first.outcome = .error error) (next : α → Traced β) :
    first.andThen next = ⟨.error error, first.calls⟩ := by
  rw [andThen, failed]

theorem calls_prefix_andThen (first : Traced α) (next : α → Traced β) :
    first.calls <+: (first.andThen next).calls := by
  cases done : first.outcome with
  | error error => simp [andThen_of_error done]
  | ok value => simp [andThen_of_ok done]

theorem map_andThen {γ : Type w} (change : β → γ) (first : Traced α) (next : α → Traced β) :
    (first.andThen next).map change = first.andThen fun value => (next value).map change := by
  obtain ⟨outcome, calls⟩ := first
  cases outcome <;> rfl

theorem andThen_assoc {γ : Type u} (first : Traced α) (next : α → Traced β)
    (last : β → Traced γ) :
    (first.andThen next).andThen last = first.andThen fun value => (next value).andThen last := by
  obtain ⟨outcome, calls⟩ := first
  cases outcome with
  | error _ => rfl
  | ok value =>
      simp only [andThen]
      cases (next value).outcome <;> simp

end Traced

end Templating
