import Templating.Calendar.Pattern
import Templating.Proofs.Calendar.Date

/-!
# Days of the year

The days that have passed in a year are those of the months before and those before the day in its
month. The last day of a year is the one whose next day lies in another year, and on it a year has
one day less than its length behind it.
-/

namespace Templating.Calendar

open Templating.Decimal (writeNat)

theorem dayOfYear_eq (number : Int) : dayOfYear number = (dateOf number).yearDay := by
  have counted := number_dateOf number
  rw [Date.number] at counted
  rw [dayOfYear]
  omega

namespace Date

variable {date : Date}

theorem yearDay_of_next_year (valid : date.Valid) (ends : date.next.year ≠ date.year) :
    date.yearDay + 1 = yearLength date.year := by
  have counted := number_next valid
  rw [next] at ends counted
  split at ends
  next => exact absurd rfl ends
  next full =>
    rw [if_neg full] at counted
    split at ends
    next => exact absurd rfl ends
    next last =>
      rw [if_neg last] at counted
      simp only [number, yearDay, newYear_succ, daysBefore_one] at counted ⊢
      omega

/-- The last of December. -/
theorem valid_last (year : Int) : Valid ⟨year, 12, 31⟩ :=
  ⟨Nat.le_add_left 1 11, Nat.le_refl 12, Nat.le_add_left 1 30, Nat.le_refl 31⟩

end Date

namespace Timestamp

/-- Whether the instant lies on the last day of its year: the next day is in another year. -/
def EndsYear (time : Timestamp) : Prop := (dateOf (time.dayNumber + 1)).year ≠ time.date.year

theorem dayNumber_midnight (number : Int) :
    (⟨86400 * number, 0⟩ : Timestamp).dayNumber = number :=
  Int.mul_fdiv_cancel_left number (by decide)

theorem exists_endsYear (year : Int) :
    ∃ time : Timestamp, time.date.year = year ∧ time.EndsYear := by
  have valid := Date.valid_last year
  refine ⟨⟨86400 * Date.number ⟨year, 12, 31⟩, 0⟩, ?_, ?_⟩
  · rw [date, dayNumber_midnight, Date.dateOf_number valid]
  · rw [EndsYear, date, dayNumber_midnight, dateOf_succ, Date.dateOf_number valid]
    simp [Date.next, daysInMonth]

end Timestamp

theorem format_z (time : Timestamp) : format time ['z'] = .ok (writeNat time.date.yearDay) := by
  rw [Timestamp.date, ← dayOfYear_eq]
  exact congrArg Except.ok (List.append_nil _)

theorem format_L (time : Timestamp) :
    format time ['L'] = .ok (writeNat (yearLength time.date.year - 365)) := by
  rw [format, patternLetter?, yearLength]
  cases isLeapYear time.date.year <;> rfl

/-- The day of the year is written as the days of the months before the own month and the days
before the day in it, and a date has a day of its month. The last day of a year, which every year
has, comes after as many days as 364 and the mark of a leap year. -/
theorem format_yearDay :
    (∀ time : Timestamp, time.date.Valid ∧
      format time ['z'] = .ok (writeNat
        (daysBefore time.date.year time.date.month + (time.date.day - 1))) ∧
      (time.EndsYear → ∃ leap, format time ['L'] = .ok (writeNat leap) ∧
        format time ['z'] = .ok (writeNat (364 + leap)))) ∧
    ∀ year : Int, ∃ time : Timestamp, time.date.year = year ∧ time.EndsYear := by
  refine ⟨fun time => ⟨valid_dateOf _, format_z time, fun ends => ?_⟩, Timestamp.exists_endsYear⟩
  rw [Timestamp.EndsYear, dateOf_succ] at ends
  have whole := Date.yearDay_of_next_year (valid_dateOf time.dayNumber) ends
  have shortest : 365 ≤ yearLength time.date.year := by
    rw [yearLength]
    split <;> decide
  have same : time.date.yearDay = 364 + (yearLength time.date.year - 365) := by
    rw [Timestamp.date] at shortest ⊢
    omega
  exact ⟨_, format_L time, same ▸ format_z time⟩

/-- The last second of a century before year zero that is no leap year. -/
theorem format_yearDay_century :
    let time : Timestamp := ⟨-65291356801, 0⟩
    time.date = ⟨-100, 12, 31⟩ ∧ time.EndsYear ∧ ∃ leap, format time ['L'] = .ok (writeNat leap) ∧
      format time ['z'] = .ok (writeNat (364 + leap)) := by
  intro time
  have day : time.date = ⟨-100, 12, 31⟩ := by decide
  have ends : time.EndsYear := by
    rw [Timestamp.EndsYear, day]
    decide
  exact ⟨day, ends, (format_yearDay.1 time).2.2 ends⟩

end Templating.Calendar
