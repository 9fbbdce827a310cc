import Templating.Error
import Templating.Text.Escaped
import Templating.Value

/-!
# Filters and registries

A filter turns a value and its arguments into a value or an error. A registry holds filters by name;
merging lays one registry over another, and the filter laid last under a name is the one found.
-/

namespace Templating

/-- A fallback filter stands in for a missing value; a pipeline with one goes on over errors that
allow a default. -/
inductive FilterKind where
  | transform
  | fallback
  deriving DecidableEq

structure Filter where
  kind : FilterKind
  apply : Value → List Value → Except FilterError Value
  /-- Whether the run is asked to stop after this call. It goes by the value and the arguments, so
  equal calls set the flag alike. -/
  cancels : Value → List Value → Bool := fun _ _ => false

namespace Filter

def transform (apply : Value → List Value → Except FilterError Value) : Filter :=
  ⟨.transform, apply, fun _ _ => false⟩

def fallback (apply : Value → List Value → Except FilterError Value) : Filter :=
  ⟨.fallback, apply, fun _ _ => false⟩

end Filter

structure Registry where
  filters : NameMap Filter

namespace Registry

def empty : Registry := ⟨NameMap.empty⟩

/-- Filters registered one after the other. -/
def ofPairs (pairs : List (String × Filter)) : Registry := ⟨NameMap.ofPairs pairs⟩

/-- The filters of `overrides` laid over those of `defaults`. -/
def merged (defaults overrides : Registry) : Registry :=
  ⟨defaults.filters.extend overrides.filters⟩

def get? (registry : Registry) (name : String) : Option Filter := registry.filters.get? name

def contains (registry : Registry) (name : String) : Bool := (registry.get? name).isSome

def isFallback (registry : Registry) (name : String) : Bool :=
  match registry.get? name with
  | some filter => filter.kind = .fallback
  | none => false

/-- The names in the order of their characters. -/
def names (registry : Registry) : List String :=
  registry.filters.names.mergeSort fun first second => decide (first ≤ second)

def size (registry : Registry) : Nat := registry.filters.size

def isEmpty (registry : Registry) : Bool := registry.filters.isEmpty

/-- The names in debugging form. -/
def describe (registry : Registry) : String :=
  let names := registry.names.map fun name => String.ofList (Text.escaped name.toList)
  "FilterRegistry \x7b filters: [" ++ String.intercalate ", " names ++ "] \x7d"

end Registry

end Templating
