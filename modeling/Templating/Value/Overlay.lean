import Templating.Value

/-!
# Laying one value over another

A map laid over a value keeps the entries of a map below it and lays its own over them. Any other
value takes the place of what was there.
-/

namespace Templating.Value

/-- The entries of a map; no other value has any. -/
def entries : Value → Entries Value
  | map entries => entries
  | _ => []

/-- The items of a list; no other value has any. -/
def items : Value → List Value
  | list items => items
  | _ => []

mutual

/-- The value with another one laid over it. -/
def overlay (below : Value) : Value → Value
  | map above => map (overlayEntries below.entries above)
  | above => above

def overlayEntries (below : Entries Value) : Entries Value → Entries Value
  | [] => below
  | (name, above) :: rest =>
      let merged := overlay ((Entries.get? name below).getD nil) above
      overlayEntries (Entries.insert name merged below) rest

end

end Templating.Value
