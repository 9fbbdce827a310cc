import Templating.Value

/-!
# Equality of values

Two values are equal when they have the same kind and the same content. The order of map entries
does not matter, and a float that is no number equals nothing, itself included.
-/

namespace Templating.Value

mutual

def same : Value → Value → Bool
  | nil, nil => true
  | bool first, bool second => first == second
  | int first, int second => first == second
  | float first, float second => first == second
  | string first, string second => first == second
  | list first, list second => sameItems first second
  | map first, map second => first.length == second.length && sameEntries first second
  | timestamp first, timestamp second => first == second
  | _, _ => false

def sameItems : List Value → List Value → Bool
  | [], [] => true
  | first :: rest, second :: others => same first second && sameItems rest others
  | _, _ => false

/-- Whether every entry has an equal one of its name among `others`. -/
def sameEntries : List (String × Value) → List (String × Value) → Bool
  | [], _ => true
  | (name, value) :: rest, others =>
      (match Entries.get? name others with
        | some other => same value other
        | none => false) && sameEntries rest others

end

end Templating.Value
