import Templating.Proofs.Calendar.Year
import Templating.Proofs.Lexicographic

/-!
# Dates and their numbers

Every day number has a date of the calendar, with a month of the year and a day of that month, and
the number is that of the date: the days up to its year, the months before its own and the days
before it are counted together. Later dates have greater numbers, so no date has two, and the date
of the next number is the next date.
-/

namespace Templating.Calendar

namespace Date

/-- A month of the year and a day of the month. -/
structure Valid (date : Date) : Prop where
  month_pos : 1 ≤ date.month
  month_le : date.month ≤ 12
  day_pos : 1 ≤ date.day
  day_le : date.day ≤ daysInMonth date.year date.month

/-- The days before the date in its year. -/
def yearDay (date : Date) : Nat := daysBefore date.year date.month + (date.day - 1)

/-- The number of the first of January of its year, and the days since then. -/
def number (date : Date) : Int := newYear date.year + date.yearDay

/-- The date that follows. -/
def next (date : Date) : Date :=
  if date.day < daysInMonth date.year date.month then { date with day := date.day + 1 }
  else if date.month < 12 then { date with month := date.month + 1, day := 1 }
  else ⟨date.year + 1, 1, 1⟩

variable {date first second : Date}

theorem Valid.yearDay_lt (valid : date.Valid) : date.yearDay < yearLength date.year := by
  have later : date.month + 1 ≤ 13 := Nat.succ_le_succ valid.month_le
  have bound := daysBefore_mono date.year (Nat.le_add_left 1 date.month) later
  rw [daysBefore_succ _ valid.month_pos, daysBefore_thirteen] at bound
  have positive := valid.day_pos
  have within := valid.day_le
  rw [yearDay]
  omega

/-! ## The date of a number -/

/-- The date that lies the given days after the first of March of a year. -/
def afterMarch (year : Int) (days : Nat) : Date :=
  let fromMarch := (5 * days + 2) / 153
  let day := days - (153 * fromMarch + 2) / 5 + 1
  let month := if fromMarch < 10 then fromMarch + 3 else fromMarch - 9
  ⟨if month ≤ 2 then year + 1 else year, month, day⟩

theorem dateOf_eq_afterMarch (era : Int) (place : EraDay) :
    dateOf (146097 * era + place.number - 719468) =
      afterMarch (400 * era + place.years) place.day := by
  have small := place.number_lt
  have shifted : 146097 * era + place.number - 719468 + 719468 = 146097 * era + place.number := by
    omega
  have eras : Int.fdiv (146097 * era + place.number) 146097 = era := by
    rw [Int.fdiv_eq_ediv_of_nonneg _ (by decide)]
    omega
  have days : (Int.fmod (146097 * era + place.number) 146097).toNat = place.number := by
    rw [Int.fmod_eq_emod_of_nonneg _ (by decide)]
    omega
  simp only [dateOf, shifted, eras, days, place.years_eq, place.day_eq, afterMarch]
  rw [Int.add_comm (place.years : Int), Int.mul_comm era]

theorem afterMarch_early (year : Int) {days : Nat} (early : days < 306) :
    ∃ fromMarch < 10, (153 * fromMarch + 2) / 5 ≤ days ∧ days < (153 * (fromMarch + 1) + 2) / 5 ∧
      afterMarch year days = ⟨year, fromMarch + 3, days - (153 * fromMarch + 2) / 5 + 1⟩ := by
  have before : (5 * days + 2) / 153 < 10 := by omega
  refine ⟨(5 * days + 2) / 153, before, by omega, by omega, ?_⟩
  rw [afterMarch, if_pos before, if_neg (by omega)]

theorem afterMarch_january {year : Int} {days : Nat} (late : 306 ≤ days) (early : days < 337) :
    afterMarch year days = ⟨year + 1, 1, days - 305⟩ := by
  have month : (5 * days + 2) / 153 = 10 := by omega
  rw [afterMarch, month]
  exact congrArg (mk (year + 1) 1) (show days - 306 + 1 = days - 305 by omega)

theorem afterMarch_february {year : Int} {days : Nat} (late : 337 ≤ days) (inside : days ≤ 365) :
    afterMarch year days = ⟨year + 1, 2, days - 336⟩ := by
  have month : (5 * days + 2) / 153 = 11 := by omega
  rw [afterMarch, month]
  exact congrArg (mk (year + 1) 2) (show days - 337 + 1 = days - 336 by omega)

/-- January and February belong to the next year, which begins 306 days after the first of March. -/
theorem afterMarch_spec (year : Int) {days : Nat} (inside : days + 1 ≤ yearLength (year + 1)) :
    (afterMarch year days).Valid ∧
      (afterMarch year days).number + 306 = newYear (year + 1) + days := by
  have longest : yearLength (year + 1) ≤ 366 := by
    rw [yearLength]
    split <;> decide
  by_cases early : days < 306
  · obtain ⟨fromMarch, before, reached, within, shape⟩ := afterMarch_early year early
    have month := daysInMonth_add_three year before
    have march := daysBefore_three year
    rw [shape]
    refine ⟨⟨Nat.le_add_left 1 _, Nat.add_le_add_right (Nat.le_of_lt_succ before) 3,
      Nat.le_add_left 1 _, ?_⟩, ?_⟩
    · change days - (153 * fromMarch + 2) / 5 + 1 ≤ daysInMonth year (fromMarch + 3)
      omega
    · simp only [number, yearDay, newYear_succ, daysBefore_add_three year before.le]
      omega
  by_cases january : days < 337
  · rw [afterMarch_january (Nat.le_of_not_lt early) january]
    refine ⟨⟨Nat.le_refl 1, Nat.le_add_left 1 11, ?_, ?_⟩, ?_⟩
    · change 1 ≤ days - 305
      omega
    · change days - 305 ≤ 31
      omega
    · simp only [number, yearDay, daysBefore_one]
      omega
  · have february := daysBefore_three (year + 1)
    rw [daysBefore_succ _ (by decide), daysBefore_two] at february
    rw [afterMarch_february (Nat.le_of_not_lt january) (by omega)]
    refine ⟨⟨Nat.le_succ 1, Nat.le_add_left 2 10, ?_, ?_⟩, ?_⟩
    · change 1 ≤ days - 336
      omega
    · change days - 336 ≤ daysInMonth (year + 1) 2
      omega
    · simp only [number, yearDay, daysBefore_two]
      omega

end Date

/-- Every number has a date, and its date has that number. -/
theorem dateOf_spec (number : Int) : (dateOf number).Valid ∧ (dateOf number).number = number := by
  obtain ⟨era, inEra, inside, whole⟩ : ∃ era : Int, ∃ inEra : Nat, inEra < 146097 ∧
      number = 146097 * era + inEra - 719468 :=
    ⟨(number + 719468) / 146097, ((number + 719468) % 146097).toNat, by omega, by omega⟩
  obtain ⟨place, rfl⟩ := EraDay.exists_number_eq inside
  have start := place.newYear_eq era
  obtain ⟨valid, counted⟩ :=
    Date.afterMarch_spec (400 * era + place.years) (place.day_le_yearLength era)
  rw [whole, Date.dateOf_eq_afterMarch]
  exact ⟨valid, by omega⟩

theorem valid_dateOf (number : Int) : (dateOf number).Valid := (dateOf_spec number).1

theorem number_dateOf (number : Int) : (dateOf number).number = number := (dateOf_spec number).2

namespace Date

variable {date first second : Date}

/-! ## The order of dates -/

theorem yearDay_lt_of_month (valid : first.Valid) (year : first.year = second.year)
    (before : first.month < second.month) : first.yearDay < second.yearDay := by
  have months := daysBefore_mono first.year (Nat.le_add_left 1 first.month) before
  rw [daysBefore_succ _ valid.month_pos] at months
  have positive := valid.day_pos
  have within := valid.day_le
  rw [yearDay, yearDay, ← year]
  omega

theorem number_lt_of_year (valid : first.Valid) (before : first.year < second.year) :
    first.number < second.number := by
  have within := valid.yearDay_lt
  have years := newYear_mono (Int.add_one_le_of_lt before)
  rw [newYear_succ] at years
  rw [number, number]
  omega

/-- Dates go by their years, then by their months, then by their days. -/
theorem compare_number (here : first.Valid) (there : second.Valid) :
    compare first.number second.number = (compare first.year second.year).then
      ((compare first.month second.month).then (compare first.day second.day)) := by
  refine compare_eq_then (number_lt_of_year here) (number_lt_of_year there) fun year => ?_
  have within : compare first.number second.number = compare first.yearDay second.yearDay := by
    rw [number, number, year]
    exact compare_eq_compare (fun _ => by omega) (fun _ => by omega) fun _ => by omega
  rw [within]
  refine compare_eq_then (yearDay_lt_of_month here year) (yearDay_lt_of_month there year.symm)
    fun month => ?_
  have positive := here.day_pos
  have positive' := there.day_pos
  rw [yearDay, yearDay, year, month]
  exact compare_eq_compare (fun _ => by omega) (fun _ => by omega) fun _ => by omega

theorem eq_of_number_eq (here : first.Valid) (there : second.Valid)
    (same : first.number = second.number) : first = second := by
  have parts := compare_number here there
  rw [compare_eq_iff_eq.mpr same, eq_comm, Ordering.then_eq_eq, Ordering.then_eq_eq,
    compare_eq_iff_eq, compare_eq_iff_eq, compare_eq_iff_eq] at parts
  obtain ⟨year, month, day⟩ := parts
  cases first
  cases second
  simp_all

theorem dateOf_number (valid : date.Valid) : dateOf date.number = date :=
  eq_of_number_eq (valid_dateOf _) valid (number_dateOf _)

/-! ## The next date -/

theorem valid_next (valid : date.Valid) : date.next.Valid := by
  rw [next]
  split
  next inside => exact ⟨valid.month_pos, valid.month_le, Nat.succ_pos _, inside⟩
  split
  next before => exact ⟨Nat.succ_pos _, before, Nat.le_refl 1, daysInMonth_pos _ _⟩
  next => exact ⟨Nat.le_refl 1, Nat.le_add_left 1 11, Nat.le_refl 1, daysInMonth_pos _ _⟩

theorem number_next (valid : date.Valid) : date.next.number = date.number + 1 := by
  have positive := valid.day_pos
  have within := valid.day_le
  rw [next]
  split
  next =>
    simp only [number, yearDay]
    omega
  split
  next =>
    simp only [number, yearDay, daysBefore_succ _ valid.month_pos]
    omega
  next last =>
    have december : date.month = 12 := Nat.le_antisymm valid.month_le (Nat.le_of_not_lt last)
    have whole := daysBefore_thirteen date.year
    rw [daysBefore_succ _ (by decide), ← december] at whole
    simp only [number, yearDay, newYear_succ, daysBefore_one]
    omega

end Date

/-- The calendar goes on date by date. -/
theorem dateOf_succ (number : Int) : dateOf (number + 1) = (dateOf number).next := by
  have valid := valid_dateOf number
  refine Date.eq_of_number_eq (valid_dateOf _) (Date.valid_next valid) ?_
  rw [number_dateOf, Date.number_next valid, number_dateOf]

example : dateOf 0 = ⟨1970, 1, 1⟩ := by decide

end Templating.Calendar
