import Templating.Calendar.Timestamp

/-!
# Date patterns

A pattern is read letter by letter: a letter with a meaning is replaced by that part of the
instant, any other ASCII letter is refused, and all other characters stand for themselves.
-/

namespace Templating.Calendar

open Templating.Decimal (writeNat writeInteger padded)

def weekdayNames : List String :=
  ["Sunday", "Monday", "Tuesday", "Wednesday", "Thursday", "Friday", "Saturday"]

def monthNames : List String :=
  ["January", "February", "March", "April", "May", "June", "July", "August", "September",
    "October", "November", "December"]

def weekdayName (time : Timestamp) : List Char :=
  (weekdayNames.getD (weekday time.dayNumber) "").toList

def monthName (time : Timestamp) : List Char :=
  (monthNames.getD (time.date.month - 1) "").toList

/-- Twelve at midnight and at noon. -/
def hourOfHalfDay (time : Timestamp) : Nat :=
  if time.hour % 12 = 0 then 12 else time.hour % 12

def ordinalSuffix (day : Nat) : String :=
  if 11 ≤ day % 100 && day % 100 ≤ 13 then "th"
  else match day % 10 with
    | 1 => "st"
    | 2 => "nd"
    | 3 => "rd"
    | _ => "th"

/-- The meaning of a pattern letter. -/
def patternLetter? (time : Timestamp) : Char → Option (List Char)
  | 'd' => some (padded 2 time.date.day)
  | 'D' => some ((weekdayName time).take 3)
  | 'j' => some (writeNat time.date.day)
  | 'l' => some (weekdayName time)
  | 'N' => some (writeNat (isoWeekday time.dayNumber))
  | 'w' => some (writeNat (weekday time.dayNumber))
  | 'W' => some (padded 2 (isoWeek time.dayNumber))
  | 'F' => some (monthName time)
  | 'm' => some (padded 2 time.date.month)
  | 'M' => some ((monthName time).take 3)
  | 'n' => some (writeNat time.date.month)
  | 'o' => some (yearText (isoYear time.dayNumber))
  | 'Y' => some (yearText time.date.year)
  | 'y' => some (padded 2 (Int.fmod time.date.year 100).toNat)
  | 'a' => some (if time.hour < 12 then ['a', 'm'] else ['p', 'm'])
  | 'A' => some (if time.hour < 12 then ['A', 'M'] else ['P', 'M'])
  | 'g' => some (writeNat (hourOfHalfDay time))
  | 'G' => some (writeNat time.hour)
  | 'h' => some (padded 2 (hourOfHalfDay time))
  | 'H' => some (padded 2 time.hour)
  | 'i' => some (padded 2 time.minute)
  | 's' => some (padded 2 time.second)
  | 'u' => some (padded 6 (time.fraction / 1000))
  | 'v' => some (padded 3 (time.fraction / 1000000))
  | 'e' => some ['U', 'T', 'C']
  | 'T' => some ['U', 'T', 'C']
  | 'O' => some ['+', '0', '0', '0', '0']
  | 'P' => some ['+', '0', '0', ':', '0', '0']
  | 'c' => some (dateText time.date ++ 'T' :: clockText time ++ ['+', '0', '0', ':', '0', '0'])
  | 'r' => some ((weekdayName time).take 3 ++ [',', ' '] ++ padded 2 time.date.day ++
      ' ' :: (monthName time).take 3 ++ ' ' :: yearText time.date.year ++
      ' ' :: clockText time ++ [' ', '+', '0', '0', '0', '0'])
  | 'U' => some (writeInteger time.seconds)
  | 'S' => some (ordinalSuffix time.date.day).toList
  | 'z' => some (writeNat (dayOfYear time.dayNumber))
  | 't' => some (writeNat (daysInMonth time.date.year time.date.month))
  | 'L' => some (if isLeapYear time.date.year then ['1'] else ['0'])
  | 'I' => some ['0']
  | 'Z' => some ['0']
  | 'p' => some ['Z']
  | _ => none

/-- The text of an instant under a pattern, or the first letter that has no meaning. -/
def format (time : Timestamp) : List Char → Except Char (List Char)
  | [] => .ok []
  | c :: rest =>
      match patternLetter? time c with
      | some part => (format time rest).map (part ++ ·)
      | none =>
          if c.isAlpha then .error c else (format time rest).map (c :: ·)

def defaultPattern : String := "Y-m-d H:i:s"

end Templating.Calendar
