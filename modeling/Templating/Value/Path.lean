import Templating.Decimal.Integer
import Templating.Value

/-!
# Paths into values

A path is a list of segments: a name in a map, a position counted from zero in a list. The first
segment that cannot be followed decides the error.
-/

namespace Templating

inductive PathError where
  | keyNotFound (segment : String)
  | indexOutOfRange (index length : Nat)
  | invalidIndex (segment : String)
  | notAContainer (segment kind : String)
  deriving DecidableEq

def PathError.message : PathError → String
  | keyNotFound segment => "key '" ++ segment ++ "' not found"
  | indexOutOfRange index length =>
      "index " ++ toString index ++ " out of range for list of length " ++ toString length
  | invalidIndex segment => "segment '" ++ segment ++ "' is not a valid list index"
  | notAContainer segment kind => "cannot look up '" ++ segment ++ "' in a " ++ kind

namespace Value

/-- One step into a value. -/
def child (value : Value) (segment : String) : Except PathError Value :=
  match value with
  | map entries =>
      match Entries.get? segment entries with
      | some next => .ok next
      | none => .error (.keyNotFound segment)
  | list items =>
      match Decimal.readIndex? segment.toList with
      | none => .error (.invalidIndex segment)
      | some index =>
          match items[index]? with
          | some next => .ok next
          | none => .error (.indexOutOfRange index items.length)
  | other => .error (.notAContainer segment other.kindName)

/-- Follows the segments one after the other. -/
def follow (value : Value) : List String → Except PathError Value
  | [] => .ok value
  | segment :: rest => (value.child segment).bind fun next => next.follow rest

theorem follow_append (value : Value) (first second : List String) :
    value.follow (first ++ second) = (value.follow first).bind (·.follow second) := by
  induction first generalizing value with
  | nil => rfl
  | cons segment rest ih =>
      simp only [List.cons_append, follow]
      cases value.child segment with
      | error _ => rfl
      | ok next => exact ih next

end Value

end Templating
