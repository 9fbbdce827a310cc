import Templating.Calendar.Date
import Templating.Decimal.Integer

/-!
# Instants

An instant counts seconds from the start of 1970 in UTC and nanoseconds within the second. A billion
nanoseconds or more stand for the leap second that follows.
-/

namespace Templating.Calendar

open Templating.Decimal (writeNat writeInteger padded)

structure Timestamp where
  seconds : Int
  nanos : Nat
  deriving DecidableEq, Repr

namespace Timestamp

def epoch : Timestamp := ⟨0, 0⟩

def dayNumber (time : Timestamp) : Int := Int.fdiv time.seconds 86400

def secondOfDay (time : Timestamp) : Nat := (Int.fmod time.seconds 86400).toNat

def date (time : Timestamp) : Date := dateOf time.dayNumber

def hour (time : Timestamp) : Nat := time.secondOfDay / 3600

def minute (time : Timestamp) : Nat := time.secondOfDay / 60 % 60

/-- The second as it is shown; sixty in a leap second. -/
def second (time : Timestamp) : Nat := time.secondOfDay % 60 + time.nanos / 1000000000

/-- Nanoseconds within the second as it is shown. -/
def fraction (time : Timestamp) : Nat := time.nanos % 1000000000

end Timestamp

/-- A year has four digits, and a sign when it lies outside 0 to 9999. -/
def yearText (year : Int) : List Char :=
  if 0 ≤ year && year ≤ 9999 then padded 4 year.toNat
  else (if year < 0 then '-' else '+') :: padded 4 year.natAbs

def dateText (date : Date) : List Char :=
  yearText date.year ++ '-' :: padded 2 date.month ++ '-' :: padded 2 date.day

def clockText (time : Timestamp) : List Char :=
  padded 2 time.hour ++ ':' :: padded 2 time.minute ++ ':' :: padded 2 time.second

/-- RFC 3339 in whole seconds. -/
def wholeText (time : Timestamp) : List Char :=
  dateText time.date ++ 'T' :: clockText time ++ ['Z']

/-- RFC 3339 with as many groups of three fraction digits as the instant needs. -/
def preciseText (time : Timestamp) : List Char :=
  let nanos := time.fraction
  let fraction :=
    if nanos = 0 then []
    else if nanos % 1000000 = 0 then '.' :: padded 3 (nanos / 1000000)
    else if nanos % 1000 = 0 then '.' :: padded 6 (nanos / 1000)
    else '.' :: padded 9 nanos
  dateText time.date ++ 'T' :: clockText time ++ fraction ++ ['Z']

end Templating.Calendar
