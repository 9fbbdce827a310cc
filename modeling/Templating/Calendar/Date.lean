/-!
# Dates of the Gregorian calendar

The calendar is extended to all years, before and after its introduction; the year before year one
is year zero. A day is named by its number, counted from the first of January 1970. Four hundred
years hold 146097 days, and within such an era the year is counted from the first of March.
-/

namespace Templating.Calendar

structure Date where
  year : Int
  month : Nat
  day : Nat
  deriving DecidableEq, Repr

/-- The date of a day number. -/
def dateOf (number : Int) : Date :=
  let shifted := number + 719468
  let era := Int.fdiv shifted 146097
  let dayOfEra := (Int.fmod shifted 146097).toNat
  let yearOfEra := (dayOfEra - dayOfEra / 1460 + dayOfEra / 36524 - dayOfEra / 146096) / 365
  let dayOfYear := dayOfEra - (365 * yearOfEra + yearOfEra / 4 - yearOfEra / 100)
  let fromMarch := (5 * dayOfYear + 2) / 153
  let day := dayOfYear - (153 * fromMarch + 2) / 5 + 1
  let month := if fromMarch < 10 then fromMarch + 3 else fromMarch - 9
  let year := (yearOfEra : Int) + era * 400
  ⟨if month ≤ 2 then year + 1 else year, month, day⟩

/-- The day number of the first of January. -/
def newYear (year : Int) : Int :=
  let past := year - 1
  365 * past + Int.fdiv past 4 - Int.fdiv past 100 + Int.fdiv past 400 - 719162

/-- The days between the first of January and the given day of that year. -/
def dayOfYear (number : Int) : Nat := (number - newYear (dateOf number).year).toNat

/-- Counts from Sunday, which is zero. -/
def weekday (number : Int) : Nat := (Int.fmod (number + 4) 7).toNat

/-- Counts from Monday, which is one; Sunday is seven. -/
def isoWeekday (number : Int) : Nat := if weekday number = 0 then 7 else weekday number

/-- Weeks belong to the year of their Thursday. -/
def isoThursday (number : Int) : Int := number - isoWeekday number + 4

def isoYear (number : Int) : Int := (dateOf (isoThursday number)).year

def isoWeek (number : Int) : Nat := dayOfYear (isoThursday number) / 7 + 1

def isLeapYear (year : Int) : Bool :=
  (Int.fmod year 4 = 0 && Int.fmod year 100 ≠ 0) || Int.fmod year 400 = 0

def daysInMonth (year : Int) (month : Nat) : Nat :=
  match month with
  | 2 => if isLeapYear year then 29 else 28
  | 4 | 6 | 9 | 11 => 30
  | _ => 31

end Templating.Calendar
