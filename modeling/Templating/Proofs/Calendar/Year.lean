import Mathlib.Order.Monotone.Basic
import Mathlib.Tactic.IntervalCases
import Templating.Calendar.Date

/-!
# Years

A year begins as many days after the one before it as that one has, and its months begin one after
the other in the same way. In an era of four hundred years, counted from the first of March, a leap
day is the last day of its year, so that centuries, groups of four years and single years are cut
off evenly one after the other.
-/

namespace Templating.Calendar

variable {year other : Int} {month : Nat}

/-! ## Days of a year -/

def yearLength (year : Int) : Nat := if isLeapYear year then 366 else 365

/-- The days of a year before the first of the given month. -/
def daysBefore (year : Int) (month : Nat) : Nat :=
  ((List.range' 1 (month - 1)).map (daysInMonth year)).sum

theorem isLeapYear_iff (year : Int) :
    isLeapYear year = true ↔ (year % 4 = 0 ∧ year % 100 ≠ 0) ∨ year % 400 = 0 := by
  simp [isLeapYear, Int.fmod_eq_emod_of_nonneg]

theorem newYear_eq (past : Int) :
    newYear (past + 1) = 365 * past + past / 4 - past / 100 + past / 400 - 719162 := by
  simp only [newYear, Int.add_sub_cancel]
  rw [Int.fdiv_eq_ediv_of_nonneg _ (by decide), Int.fdiv_eq_ediv_of_nonneg _ (by decide),
    Int.fdiv_eq_ediv_of_nonneg _ (by decide)]

theorem newYear_succ (year : Int) : newYear (year + 1) = newYear year + yearLength year := by
  obtain ⟨past, rfl⟩ : ∃ past, year = past + 1 := ⟨year - 1, (Int.sub_add_cancel year 1).symm⟩
  rw [newYear_eq, newYear_eq, yearLength]
  split
  next leap =>
    rw [isLeapYear_iff] at leap
    omega
  next common =>
    rw [isLeapYear_iff] at common
    omega

theorem newYear_mono (before : year ≤ other) : newYear year ≤ newYear other := by
  refine monotone_int_of_le_succ (fun year => ?_) before
  rw [newYear_succ]
  omega

theorem daysInMonth_pos (year : Int) (month : Nat) : 1 ≤ daysInMonth year month := by
  unfold daysInMonth
  repeat' split
  all_goals decide

theorem daysBefore_one (year : Int) : daysBefore year 1 = 0 := rfl

theorem daysBefore_succ (year : Int) (positive : 1 ≤ month) :
    daysBefore year (month + 1) = daysBefore year month + daysInMonth year month := by
  obtain ⟨past, rfl⟩ := Nat.exists_eq_add_of_le' positive
  simp [daysBefore, List.range'_concat, Nat.add_comm 1 past]

theorem daysBefore_mono (year : Int) {later : Nat} (positive : 1 ≤ month) (before : month ≤ later) :
    daysBefore year month ≤ daysBefore year later := by
  induction later, before using Nat.le_induction with
  | base => exact Nat.le_refl _
  | succ later before ih =>
      rw [daysBefore_succ year (Nat.le_trans positive before)]
      exact Nat.le_add_right_of_le ih

theorem daysBefore_two (year : Int) : daysBefore year 2 = 31 := rfl

theorem daysBefore_three (year : Int) : daysBefore year 3 + 306 = yearLength year := by
  rw [daysBefore_succ year (by decide), daysBefore_two, daysInMonth, yearLength]
  split <;> rfl

/-- From March on, five months have 153 days whatever the year. -/
theorem daysInMonth_add_three (year : Int) {fromMarch : Nat} (before : fromMarch < 10) :
    (153 * fromMarch + 2) / 5 + daysInMonth year (fromMarch + 3) =
      (153 * (fromMarch + 1) + 2) / 5 := by
  interval_cases fromMarch <;> rfl

theorem daysBefore_add_three (year : Int) {fromMarch : Nat} (last : fromMarch ≤ 10) :
    daysBefore year (fromMarch + 3) = daysBefore year 3 + (153 * fromMarch + 2) / 5 := by
  induction fromMarch with
  | zero => rfl
  | succ fromMarch ih =>
      rw [Nat.add_right_comm, daysBefore_succ year (Nat.le_add_left 1 _), ih (by omega),
        Nat.add_assoc, daysInMonth_add_three year last]

theorem daysBefore_thirteen (year : Int) : daysBefore year 13 = yearLength year := by
  rw [daysBefore_add_three year (Nat.le_refl 10), ← daysBefore_three]

/-! ## Years of an era -/

/-- A day of an era of four hundred years, by the full centuries, the full groups of four years and
the full years before it, and the days before it in its year. Only a year that ends a group has one
more day, and of those that end a century only the last. -/
structure EraDay where
  century : Nat
  group : Nat
  single : Nat
  day : Nat
  century_le : century ≤ 3
  group_le : group ≤ 24
  single_le : single ≤ 3
  day_le : day ≤ 364 ∨ day = 365 ∧ single = 3 ∧ (group ≠ 24 ∨ century = 3)

/-- Blocks of one length are cut off as long as there are any; the last of them may leave one day
over. -/
theorem exists_blocks (number length last : Nat) (positive : 0 < length)
    (inside : number ≤ length * (last + 1)) :
    ∃ full rest, full ≤ last ∧ number = length * full + rest ∧ rest ≤ length ∧
      (rest = length → full = last) := by
  rcases Nat.eq_or_lt_of_le inside with rfl | before
  · exact ⟨last, length, Nat.le_refl _, Nat.mul_succ _ _, Nat.le_refl _, fun _ => rfl⟩
  · have small := Nat.mod_lt number positive
    refine ⟨number / length, number % length, ?_, (Nat.div_add_mod _ _).symm, small.le, ?_⟩
    · exact Nat.le_of_lt_succ (Nat.div_lt_of_lt_mul before)
    · exact fun same => absurd same small.ne

namespace EraDay

/-- The days of the era before this day. -/
def number (place : EraDay) : Nat :=
  36524 * place.century + 1461 * place.group + 365 * place.single + place.day

/-- The years of the era before this day. -/
def years (place : EraDay) : Nat := 100 * place.century + 4 * place.group + place.single

theorem exists_number_eq {number : Nat} (inside : number < 146097) :
    ∃ place : EraDay, place.number = number := by
  obtain ⟨century, inCentury, century_le, whole, inCentury_le, lastCentury⟩ :=
    exists_blocks number 36524 3 (by decide) (by omega)
  obtain ⟨group, inGroup, group_le, whole', inGroup_le, lastGroup⟩ :=
    exists_blocks inCentury 1461 24 (by decide) (by omega)
  obtain ⟨single, day, single_le, whole'', day_le, lastSingle⟩ :=
    exists_blocks inGroup 365 3 (by decide) (by omega)
  refine ⟨⟨century, group, single, day, century_le, group_le, single_le, ?_⟩, ?_⟩
  · omega
  · change 36524 * century + 1461 * group + 365 * single + day = number
    omega

variable (place : EraDay)

theorem number_lt : place.number < 146097 := by
  obtain ⟨century, group, single, day, century_le, group_le, single_le, day_le⟩ := place
  simp only [number]
  omega

theorem centuries_number : place.number / 36524 = place.century + place.number / 146096 := by
  obtain ⟨century, group, single, day, century_le, group_le, single_le, day_le⟩ := place
  simp only [number]
  -- Only the last day of an era lies beyond the 36524 days of a century.
  have inCentury : 1461 * group + 365 * single + day ≤ 36523 ∨
      1461 * group + 365 * single + day = 36524 ∧ century = 3 := by omega
  rcases inCentury with inside | ⟨last, rfl⟩
  · omega
  · omega

/-- The years before a day of the era come out of its number. -/
theorem years_eq : (place.number - place.number / 1460 + place.number / 36524 -
    place.number / 146096) / 365 = place.years := by
  rw [centuries_number]
  obtain ⟨century, group, single, day, century_le, group_le, single_le, day_le⟩ := place
  simp only [number, years]
  -- Blocks of 1460 days fall behind the groups by a day each, and behind centuries by 24.
  obtain ⟨behind, behind_eq⟩ : ∃ behind, behind = 24 * century + group + 365 * single + day :=
    ⟨_, rfl⟩
  have total : 36524 * century + 1461 * group + 365 * single + day =
      1460 * (25 * century + group) + behind := by omega
  rw [total]
  by_cases small : behind < 1460
  · have groups : (1460 * (25 * century + group) + behind) / 1460 = 25 * century + group := by
      omega
    rw [groups]
    omega
  · have groups : (1460 * (25 * century + group) + behind) / 1460 = 25 * century + group + 1 := by
      omega
    rw [groups]
    omega

theorem day_eq :
    place.number - (365 * place.years + place.years / 4 - place.years / 100) = place.day := by
  obtain ⟨century, group, single, day, century_le, group_le, single_le, day_le⟩ := place
  simp only [number, years]
  omega

/-- The first of January after the first of March that the day is counted from. -/
theorem newYear_eq (era : Int) : newYear (400 * era + place.years + 1) + 719162 =
    146097 * era + (place.number - place.day : Int) := by
  obtain ⟨century, group, single, day, century_le, group_le, single_le, day_le⟩ := place
  rw [Calendar.newYear_eq]
  simp only [number, years]
  omega

theorem day_le_yearLength (era : Int) :
    place.day + 1 ≤ yearLength (400 * era + place.years + 1) := by
  obtain ⟨century, group, single, day, century_le, group_le, single_le, day_le⟩ := place
  simp only [yearLength, years, isLeapYear_iff]
  split
  next => omega
  next common => omega

end EraDay

end Templating.Calendar
