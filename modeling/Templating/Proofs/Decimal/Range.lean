import Templating.Decimal.Reading
import Templating.Proofs.Binary64.Scientific

/-!
# Texts that no finite float stands for

A text read as a float is infinite when it is a word for infinity or a number from the limit on,
and no number when it is the word for that; any other text that is read gives a finite float. The
shortcut for numbers whose leading power is far from that of all floats does not change this.
-/

namespace Templating.Decimal

open Binary64 (limit limit_pos)

/-- The number is at least the middle between the largest float and the next power of two. -/
def Parts.beyond (parts : Parts) : Bool :=
  decide (limit * 10 ^ (-parts.power).toNat ≤
    Nat.ofDigitChars 10 parts.digits 0 * 10 ^ parts.power.toNat)

def withoutSign : List Char → List Char
  | '-' :: text => text
  | '+' :: text => text
  | text => text

/-- After its sign, the text is a word for infinity or for no number, or a number beyond the
limit. -/
def unbounded (text : List Char) : Bool :=
  let magnitude := withoutSign text
  ["inf", "infinity", "nan"].contains (String.ofList (magnitude.map Char.toLower)) ||
    (readParts? magnitude).any Parts.beyond

/-! ## Digits -/

theorem ofDigitChars_cons_zero (c : Char) (rest : List Char) :
    Nat.ofDigitChars 10 (c :: rest) 0 =
      10 ^ rest.length * (c.toNat - '0'.toNat) + Nat.ofDigitChars 10 rest 0 := by
  rw [Nat.ofDigitChars_cons, Nat.mul_zero, Nat.zero_add, Nat.ofDigitChars_eq_ofDigitChars_zero]

theorem ofDigitChars_lt {digits : List Char} (all : ∀ c ∈ digits, c.isDigit = true) :
    Nat.ofDigitChars 10 digits 0 < 10 ^ digits.length := by
  induction digits with
  | nil => exact Nat.zero_lt_one
  | cons c rest ih =>
      have tail := ih fun other member => all other (List.mem_cons_of_mem c member)
      have digit : c.toNat - '0'.toNat ≤ 9 := by
        have range := (Char.isDigit_iff_toNat.mp (all c List.mem_cons_self)).2
        have nine : '9'.toNat = 57 := rfl
        have zero : '0'.toNat = 48 := rfl
        omega
      have head := Nat.mul_le_mul_left (10 ^ rest.length) digit
      rw [ofDigitChars_cons_zero, List.length_cons, Nat.pow_succ]
      omega

theorem le_ofDigitChars_cons {c : Char} (digit : c.isDigit = true) (leading : c ≠ '0')
    (rest : List Char) : 10 ^ rest.length ≤ Nat.ofDigitChars 10 (c :: rest) 0 := by
  have positive : 1 ≤ c.toNat - '0'.toNat := by
    have range := (Char.isDigit_iff_toNat.mp digit).1
    have other : c.toNat ≠ '0'.toNat := fun same => leading (Char.toNat_inj.mp same)
    omega
  have head := Nat.mul_le_mul_left (10 ^ rest.length) positive
  rw [ofDigitChars_cons_zero]
  omega

/-- Zeros in front do not count. -/
theorem ofDigitChars_dropWhile (digits : List Char) :
    Nat.ofDigitChars 10 (digits.dropWhile (· == '0')) 0 = Nat.ofDigitChars 10 digits 0 := by
  induction digits with
  | nil => rfl
  | cons c rest ih =>
      by_cases zero : c = '0'
      · rw [zero, List.dropWhile_cons_of_pos rfl, ih, Nat.ofDigitChars_cons]
        rfl
      · rw [List.dropWhile_cons_of_neg (by simpa using zero)]

/-! ## Numbers -/

theorem limit_lt_ten_pow {places : Nat} (many : 342 ≤ places) : limit < 10 ^ places :=
  calc limit < 2 ^ (3 * places) := Binary64.middle_lt_two_pow (by omega)
    _ = (2 ^ 3) ^ places := Nat.pow_mul 2 3 places
    _ ≤ 10 ^ places := Nat.pow_le_pow_left (by decide) places

theorem not_beyond_nil (power : Int) : (Parts.mk [] power).beyond = false := by
  refine decide_eq_false (Nat.not_le.mpr ?_)
  rw [Nat.ofDigitChars_nil, Nat.zero_mul]
  exact Nat.mul_pos limit_pos (Nat.pow_pos (by decide))

theorem not_beyond_of_small {digits : List Char} {power : Int} (all : ∀ c ∈ digits, c.isDigit = true)
    (small : power + digits.length ≤ 0) : (Parts.mk digits power).beyond = false := by
  have none : power.toNat = 0 := by omega
  refine decide_eq_false (Nat.not_le.mpr ?_)
  rw [none, Nat.pow_zero, Nat.mul_one]
  calc Nat.ofDigitChars 10 digits 0 < 10 ^ digits.length := ofDigitChars_lt all
    _ ≤ 10 ^ (-power).toNat := Nat.pow_le_pow_right (by decide) (by omega)
    _ ≤ limit * 10 ^ (-power).toNat := Nat.le_mul_of_pos_left _ limit_pos

theorem beyond_of_leading {c : Char} {rest : List Char} {power : Int} (digit : c.isDigit = true)
    (leading : c ≠ '0') (large : 342 ≤ power + rest.length) :
    (Parts.mk (c :: rest) power).beyond = true := by
  refine decide_eq_true ?_
  obtain ⟨places, many, split⟩ : ∃ places : Nat, 342 ≤ places ∧
      rest.length + power.toNat = places + (-power).toNat :=
    ⟨(power + rest.length).toNat, by omega, by omega⟩
  calc limit * 10 ^ (-power).toNat ≤ 10 ^ places * 10 ^ (-power).toNat :=
        Nat.mul_le_mul_right _ (limit_lt_ten_pow many).le
    _ = 10 ^ rest.length * 10 ^ power.toNat := by rw [← Nat.pow_add, ← split, Nat.pow_add]
    _ ≤ Nat.ofDigitChars 10 (c :: rest) 0 * 10 ^ power.toNat :=
        Nat.mul_le_mul_right _ (le_ofDigitChars_cons digit leading rest)

theorem beyond_dropWhile (digits : List Char) (power : Int) :
    (Parts.mk (digits.dropWhile (· == '0')) power).beyond = (Parts.mk digits power).beyond := by
  rw [Parts.beyond, Parts.beyond, ofDigitChars_dropWhile]

/-- The bounds on the leading power leave no number on the wrong side of the limit, which has 309
digits. -/
theorem Parts.isFinite_round (parts : Parts) (all : ∀ c ∈ parts.digits, c.isDigit = true) :
    parts.round.isFinite = !parts.beyond := by
  obtain ⟨digits, power⟩ := parts
  have kept : ∀ c ∈ digits.dropWhile (· == '0'), c.isDigit = true := fun c member =>
    all c (List.dropWhile_subset _ member)
  have first := List.head?_dropWhile_not (· == '0') digits
  rw [← beyond_dropWhile, Parts.round]
  dsimp only
  generalize digits.dropWhile (· == '0') = significant at *
  cases significant with
  | nil =>
      have zero : (0.0 : Float).isFinite = true := by decide
      rw [not_beyond_nil]
      exact zero
  | cons c rest =>
      have digit := kept c List.mem_cons_self
      have leading : c ≠ '0' := by simpa using first
      by_cases small : power + (c :: rest).length < -400
      · rw [not_beyond_of_small kept (by omega), if_pos (by simpa using small)]
        decide
      rw [if_neg (by simpa using small)]
      by_cases large : 400 < power + (c :: rest).length
      · have length : (c :: rest).length = rest.length + 1 := rfl
        rw [if_pos large, beyond_of_leading digit leading (by omega)]
        decide
      rw [if_neg large, Binary64.isFinite_ofScientific, Parts.beyond, ← decide_not, decide_eq_decide]
      exact Nat.not_le.symm

/-! ## Texts -/

theorem isDigit_of_readParts? {text : List Char} {parts : Parts}
    (read : readParts? text = some parts) : ∀ c ∈ parts.digits, c.isDigit = true := by
  have run : ∀ part : List Char, ∀ c ∈ part.takeWhile Char.isDigit, c.isDigit = true :=
    fun part c member => List.mem_takeWhile_imp member
  obtain ⟨part, same⟩ : ∃ part : List Char,
      parts.digits = text.takeWhile Char.isDigit ++ part.takeWhile Char.isDigit := by
    unfold readParts? at read
    dsimp only at read
    split at read
    case' h_1 rest _ => refine ⟨rest, ?_⟩
    case' h_2 => refine ⟨[], ?_⟩
    all_goals
      split at read
      · cases read
      · split at read
        · cases read
          rfl
        · split at read
          · obtain ⟨power, -, rfl⟩ := Option.map_eq_some_iff.mp read
            rfl
          · cases read
  rw [same]
  exact fun c member => (List.mem_append.mp member).elim (run text c) (run part c)

theorem readMagnitude?_all_isFinite (text : List Char) :
    (readMagnitude? text).all Float.isFinite =
      !(["inf", "infinity", "nan"].contains (String.ofList (text.map Char.toLower)) ||
        (readParts? text).any Parts.beyond) := by
  have numbers : ((readParts? text).map Parts.round).all Float.isFinite =
      !(readParts? text).any Parts.beyond := by
    cases read : readParts? text with
    | none => rfl
    | some parts =>
        rw [Option.map_some, Option.all_some, Option.any_some]
        exact parts.isFinite_round (isDigit_of_readParts? read)
  have infinity : (Float.ofBits 0x7ff0000000000000).isFinite = false := by decide
  have noNumber : (Float.ofBits 0x7ff8000000000000).isFinite = false := by decide
  rw [readMagnitude?]
  generalize String.ofList (text.map Char.toLower) = word
  by_cases infinite : word = "inf" ∨ word = "infinity"
  · rw [if_pos (by simpa using infinite)]
    rcases infinite with rfl | rfl <;> exact infinity
  rw [if_neg (by simpa using infinite)]
  by_cases none : word = "nan"
  · rw [if_pos none, none]
    exact noNumber
  rw [if_neg none, numbers]
  have other : ["inf", "infinity", "nan"].contains word = false := by
    rw [not_or] at infinite
    simp [infinite, none]
  rw [other, Bool.false_or]

theorem all_isFinite_withoutSign (text : List Char) :
    (readFloat? text).all Float.isFinite = (readMagnitude? (withoutSign text)).all Float.isFinite := by
  unfold readFloat?
  split
  next rest =>
    rw [Option.all_map]
    exact congrArg (Option.all · _) (funext Binary64.isFinite_neg)
  next => rfl
  next minus plus =>
    unfold withoutSign
    split
    next rest => exact absurd rfl (minus rest)
    next rest => exact absurd rfl (plus rest)
    next => rfl

/-- Reading gives no float that is infinite or no number, unless the text is unbounded. -/
theorem readFloat?_all_isFinite (text : List Char) :
    (readFloat? text).all Float.isFinite = !unbounded text :=
  (all_isFinite_withoutSign text).trans (readMagnitude?_all_isFinite (withoutSign text))

example : ["-1e309", "1.7976931348623159e308", "1.7976931348623158e308", "inf"].map
    (fun text => unbounded text.toList) = [true, true, false, true] := by
  decide +kernel

end Templating.Decimal
