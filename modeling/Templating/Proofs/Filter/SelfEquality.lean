import Templating.Proofs.Decimal.Range
import Templating.Proofs.Filter.Comparison
import Templating.Proofs.Value.Equality

/-!
# Values compared with themselves

Comparing takes the distance of two numbers. A finite float has the distance zero from itself, but
an infinite one has none: so a text that reads as infinity, or as no number, is not equal to itself.
These are the words for them and the numbers that no finite float is nearest to.
-/

namespace Templating.Filter

open Float.Model (UnpackedFloat)

/-- Only finite numbers have a distance from themselves. -/
theorem sub_self_unpacked (number : UnpackedFloat) :
    UnpackedFloat.sub .binary64 number number =
      if number.isFinite then .zero .positive else .notANumber := by
  cases number with
  | infinity sign => cases sign <;> rfl
  | notANumber => rfl
  | zero sign => cases sign <;> rfl
  | finite sign mantissa exponent nonzero =>
      rw [UnpackedFloat.sub]
      simp only [Int.sub_self]
      rfl

theorem near_self_iff (number : Float) :
    (number - number).abs < tolerance ↔ number.isFinite = true := by
  have distance := unpack_abs_sub number.toModel number.toModel
  rw [sub_self_unpacked] at distance
  rw [lt_iff_unpack]
  refine (Iff.of_eq (congrArg (fun unpacked => UnpackedFloat.lt unpacked _ = true) distance)).trans ?_
  change _ ↔ number.toModel.unpack.isFinite = true
  cases number.toModel.unpack.isFinite with
  | true => exact iff_of_true rfl rfl
  | false => exact iff_of_false (by decide) Bool.false_ne_true

/-- A value that is a number is compared as one, and any other with itself part by part. -/
theorem equal_self_eq (value : Value) :
    equal value [value] = .ok (.bool ((numeric? value).elim (value.same value) Float.isFinite)) := by
  cases read : numeric? value with
  | none => simp [equal, argument, read, bind, Except.bind, pure, Except.pure]
  | some number =>
      have near : decide ((number - number).abs < tolerance) = number.isFinite := by
        rw [Bool.eq_iff_iff, decide_eq_true_iff, near_self_iff]
      simp [equal, argument, read, near, bind, Except.bind, pure, Except.pure]

theorem isFinite_ofInt64 (value : Int64) : (Float.ofModel (.ofInt64 value)).isFinite = true :=
  (Binary64.holds_ofInt64 value).isFinite

theorem numeric?_all_isFinite (value : Value) (floatless : value.Floatless) :
    (numeric? value).all Float.isFinite =
      value.string?.all fun text => !Decimal.unbounded (Text.trim text.toList) := by
  cases value with
  | string text => exact Decimal.readFloat?_all_isFinite (Text.trim text.toList)
  | int number => exact isFinite_ofInt64 number
  | float number => exact floatless.elim
  | _ => rfl

/-- Values without floats are equal to themselves, with one exception: a text that reads as a float
that is infinite or no number. -/
theorem equal_self (value : Value) (formed : value.WellFormed) (floatless : value.Floatless) :
    equal value [value] =
      .ok (.bool (value.string?.all fun text => !Decimal.unbounded (Text.trim text.toList))) := by
  rw [equal_self_eq, Value.same_self value formed floatless,
    ← numeric?_all_isFinite value floatless]
  cases numeric? value <;> rfl

/-- Text whose parts are not numbers, and a map with its entries. -/
theorem equal_self_nested :
    let value : Value := .map [("name", .string "nan"), ("count", .list [.int 3, .nil])]
    equal value [value] = .ok (.bool true) := by
  intro value
  have formed : value.WellFormed := by
    simp [value, Value.WellFormed, Value.WellFormedEntries, Value.WellFormedItems]
  have floatless : value.Floatless := by
    simp [value, Value.Floatless, Value.FloatlessEntries, Value.FloatlessItems]
  exact equal_self value formed floatless

/-- The word for infinity reads as a number that has no distance from itself. -/
theorem not_forall_equal_self :
    ¬ ∀ text : String, equal (.string text) [.string text] = .ok (.bool true) := by
  intro every
  have answer : equal (.string "inf") [.string "inf"] = .ok (.bool false) := by
    rw [equal_self_eq]
    rfl
  rw [every "inf"] at answer
  cases answer

end Templating.Filter
