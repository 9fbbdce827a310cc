import Templating.Calendar.Pattern
import Templating.Proofs.Calendar.Date
import Templating.Proofs.Decimal.Padded

/-!
# Dates as texts in order of time

In the default pattern the parts of an instant stand from the greatest to the smallest, each in a
fixed width. So as long as years have four digits, the bytes of two such texts stand in the order of
the instants, to the second.
-/

namespace Templating.Calendar

open Text (utf8)
open Decimal (padded compare_utf8_padded length_utf8_padded)

/-! ## Parts of a text -/

theorem compare_part {width first second : Nat} (positive : 0 < width) (small : first < 10 ^ width)
    (small' : second < 10 ^ width) (c : Char) (rest others : List Char) :
    compare (utf8 (padded width first ++ c :: rest)) (utf8 (padded width second ++ c :: others)) =
      (compare first second).then (compare (utf8 rest) (utf8 others)) := by
  have same : (utf8 (padded width first)).length = (utf8 (padded width second)).length := by
    rw [length_utf8_padded positive small, length_utf8_padded positive small']
  rw [Text.compare_utf8_append same, compare_utf8_padded positive small small',
    Text.compare_utf8_cons]

theorem Date.Valid.day_lt {date : Date} (valid : date.Valid) : date.day < 100 := by
  have within := valid.day_le
  have longest : daysInMonth date.year date.month ≤ 31 := by
    unfold daysInMonth
    repeat' split
    all_goals decide
  omega

/-- A year that is written with four digits and no sign. -/
def Date.FourDigits (date : Date) : Prop := 0 ≤ date.year ∧ date.year ≤ 9999

section Dates

variable {first second : Date}

theorem yearText_of_fourDigits (four : first.FourDigits) :
    yearText first.year = padded 4 first.year.toNat := by
  obtain ⟨low, high⟩ := four
  simp [yearText, low, high]

/-- Date texts stand in the order of the dates, and what follows decides between equal dates. -/
theorem compare_dateText (here : first.Valid) (there : second.Valid) (four : first.FourDigits)
    (four' : second.FourDigits) (c : Char) (rest others : List Char) :
    compare (utf8 (dateText first ++ c :: rest)) (utf8 (dateText second ++ c :: others)) =
      (compare first.number second.number).then (compare (utf8 rest) (utf8 others)) := by
  have month : first.month < 10 ^ 2 := Nat.lt_of_le_of_lt here.month_le (by decide)
  have month' : second.month < 10 ^ 2 := Nat.lt_of_le_of_lt there.month_le (by decide)
  have years : compare first.year.toNat second.year.toNat = compare first.year second.year := by
    obtain ⟨low, -⟩ := four
    obtain ⟨low', -⟩ := four'
    exact compare_eq_compare (fun _ => by omega) (fun _ => by omega) fun _ => by omega
  have year : first.year.toNat < 10 ^ 4 := by
    obtain ⟨-, high⟩ := four
    omega
  have year' : second.year.toNat < 10 ^ 4 := by
    obtain ⟨-, high⟩ := four'
    omega
  simp only [dateText, yearText_of_fourDigits four, yearText_of_fourDigits four',
    List.append_assoc, List.cons_append]
  rw [compare_part (by decide) year year', compare_part (by decide) month month',
    compare_part (by decide) here.day_lt there.day_lt, years, Date.compare_number here there,
    Ordering.then_assoc, Ordering.then_assoc]

end Dates

section Instants

variable {first second : Timestamp}

theorem Timestamp.second_eq {time : Timestamp} (whole : time.nanos < 1000000000) :
    time.second = time.secondOfDay % 60 := by
  rw [second, Nat.div_eq_of_lt whole, Nat.add_zero]

theorem Timestamp.secondOfDay_lt (time : Timestamp) : time.secondOfDay < 86400 := by
  rw [secondOfDay, Int.fmod_eq_emod_of_nonneg _ (by decide)]
  omega

theorem compare_clockText (whole : first.nanos < 1000000000) (whole' : second.nanos < 1000000000) :
    compare (utf8 (clockText first)) (utf8 (clockText second)) =
      compare first.secondOfDay second.secondOfDay := by
  have within := first.secondOfDay_lt
  have within' := second.secondOfDay_lt
  have hour : first.hour < 10 ^ 2 := by rw [Timestamp.hour]; omega
  have hour' : second.hour < 10 ^ 2 := by rw [Timestamp.hour]; omega
  have minute : first.minute < 10 ^ 2 := by rw [Timestamp.minute]; omega
  have minute' : second.minute < 10 ^ 2 := by rw [Timestamp.minute]; omega
  have last : first.second < 10 ^ 2 := by rw [Timestamp.second_eq whole]; omega
  have last' : second.second < 10 ^ 2 := by rw [Timestamp.second_eq whole']; omega
  have parts : compare first.secondOfDay second.secondOfDay =
      (compare first.hour second.hour).then
        ((compare first.minute second.minute).then (compare first.second second.second)) := by
    rw [Timestamp.second_eq whole, Timestamp.second_eq whole']
    simp only [Timestamp.hour, Timestamp.minute]
    refine compare_eq_then (fun _ => by omega) (fun _ => by omega) fun _ => ?_
    refine compare_eq_then (fun _ => by omega) (fun _ => by omega) fun _ => ?_
    exact compare_eq_compare (fun _ => by omega) (fun _ => by omega) fun _ => by omega
  simp only [clockText, List.append_assoc, List.cons_append]
  rw [compare_part (by decide) hour hour', compare_part (by decide) minute minute',
    compare_utf8_padded (by decide) last last', parts]

theorem compare_seconds (first second : Timestamp) :
    compare first.seconds second.seconds =
      (compare first.dayNumber second.dayNumber).then
        (compare first.secondOfDay second.secondOfDay) := by
  simp only [Timestamp.dayNumber, Timestamp.secondOfDay]
  rw [Int.fdiv_eq_ediv_of_nonneg _ (by decide), Int.fdiv_eq_ediv_of_nonneg _ (by decide),
    Int.fmod_eq_emod_of_nonneg _ (by decide), Int.fmod_eq_emod_of_nonneg _ (by decide)]
  refine compare_eq_then (fun _ => by omega) (fun _ => by omega) fun _ => ?_
  exact compare_eq_compare (fun _ => by omega) (fun _ => by omega) fun _ => by omega

theorem format_of_letter {time : Timestamp} {c : Char} {part : List Char} (rest : List Char)
    (meaning : patternLetter? time c = some part) :
    format time (c :: rest) = (format time rest).map (part ++ ·) := by
  rw [format, meaning]

theorem format_of_other {time : Timestamp} {c : Char} (rest : List Char)
    (meaning : patternLetter? time c = none) (other : c.isAlpha = false) :
    format time (c :: rest) = (format time rest).map (c :: ·) := by
  rw [format, meaning]
  exact if_neg (ne_true_of_eq_false other)

theorem format_defaultPattern (time : Timestamp) :
    format time defaultPattern.toList = .ok (dateText time.date ++ ' ' :: clockText time) := by
  have letters : defaultPattern.toList = ['Y', '-', 'm', '-', 'd', ' ', 'H', ':', 'i', ':', 's'] :=
    rfl
  rw [letters, format_of_letter _ rfl, format_of_other _ rfl rfl, format_of_letter _ rfl,
    format_of_other _ rfl rfl, format_of_letter _ rfl, format_of_other _ rfl rfl,
    format_of_letter _ rfl, format_of_other _ rfl rfl, format_of_letter _ rfl,
    format_of_other _ rfl rfl, format_of_letter _ rfl]
  simp [format, Except.map, dateText, clockText]

/-- In the default pattern the bytes of two texts stand in the order of the instants, to the
second, if the years have four digits and neither instant is in a leap second. -/
theorem format_chronological (whole : first.nanos < 1000000000)
    (whole' : second.nanos < 1000000000) (four : 0 ≤ first.date.year ∧ first.date.year ≤ 9999)
    (four' : 0 ≤ second.date.year ∧ second.date.year ≤ 9999) :
    ∃ text other, format first defaultPattern.toList = .ok text ∧
      format second defaultPattern.toList = .ok other ∧
      compare (utf8 text) (utf8 other) = compare first.seconds second.seconds := by
  refine ⟨_, _, format_defaultPattern first, format_defaultPattern second, ?_⟩
  calc compare (utf8 (dateText first.date ++ ' ' :: clockText first))
        (utf8 (dateText second.date ++ ' ' :: clockText second))
      = (compare first.date.number second.date.number).then
          (compare (utf8 (clockText first)) (utf8 (clockText second))) :=
        compare_dateText (valid_dateOf _) (valid_dateOf _) four four' ' ' _ _
    _ = (compare first.dayNumber second.dayNumber).then
          (compare first.secondOfDay second.secondOfDay) := by
        rw [Timestamp.date, Timestamp.date, number_dateOf, number_dateOf,
          compare_clockText whole whole']
    _ = compare first.seconds second.seconds := (compare_seconds first second).symm

/-- The last instant of 1969 and the first of 1970. -/
theorem format_chronological_epoch :
    let first : Timestamp := ⟨-1, 999999999⟩
    let second : Timestamp := ⟨0, 0⟩
    first.nanos < 1000000000 ∧ second.nanos < 1000000000 ∧
      (0 ≤ first.date.year ∧ first.date.year ≤ 9999) ∧
      (0 ≤ second.date.year ∧ second.date.year ≤ 9999) ∧
      ∃ text other, format first defaultPattern.toList = .ok text ∧
        format second defaultPattern.toList = .ok other ∧ compare (utf8 text) (utf8 other) = .lt := by
  intro first second
  have whole : first.nanos < 1000000000 := by decide
  have whole' : second.nanos < 1000000000 := by decide
  have four : 0 ≤ first.date.year ∧ first.date.year ≤ 9999 := by decide
  have four' : 0 ≤ second.date.year ∧ second.date.year ≤ 9999 := by decide
  exact ⟨whole, whole', four, four', format_chronological whole whole' four four'⟩

end Instants

end Templating.Calendar
