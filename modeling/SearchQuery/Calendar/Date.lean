/-!
# Dates

Days of the Gregorian calendar, extended to all years.  A day is counted from the first of January
1970, and its year, month, week and weekday follow from that number.
-/

set_option autoImplicit false
namespace SearchQuery.Calendar

structure Date where
  number : Int
  deriving DecidableEq

structure CivilDay where
  year : Int
  month : Nat
  day : Nat

def isLeap (year : Int) : Bool := year % 4 == 0 && (year % 100 != 0 || year % 400 == 0)

def daysInYear (year : Int) : Nat := if isLeap year then 366 else 365

def daysInMonth (year : Int) (month : Nat) : Nat :=
  if month = 2 then (if isLeap year then 29 else 28)
  else if month = 4 ∨ month = 6 ∨ month = 9 ∨ month = 11 then 30
  else 31

def firstYear : Int := -262143
def lastYear : Int := 262142

def inCalendar (year : Int) : Bool := decide (firstYear ≤ year) && decide (year ≤ lastYear)

namespace Date

def newYear (year : Int) : Date :=
  let before := year - 1
  ⟨365 * before + before / 4 - before / 100 + before / 400 - 719162⟩

/-- The day of a month; years of the calculation begin in March. -/
def ofCivil (c : CivilDay) : Date :=
  let year := if c.month ≤ 2 then c.year - 1 else c.year
  let month : Int := if c.month ≤ 2 then c.month + 9 else c.month - 3
  ⟨365 * year + year / 4 - year / 100 + year / 400 + (153 * month + 2) / 5 + c.day - 1 - 719468⟩

/-- The year, month and day; a cycle of the calendar is 400 years or 146097 days. -/
def civil (d : Date) : CivilDay :=
  let shifted := d.number + 719468
  let dayOfCycle := shifted % 146097
  let yearOfCycle :=
    (dayOfCycle - dayOfCycle / 1460 + dayOfCycle / 36524 - dayOfCycle / 146096) / 365
  let dayOfYear := dayOfCycle - (365 * yearOfCycle + yearOfCycle / 4 - yearOfCycle / 100)
  let month := (5 * dayOfYear + 2) / 153
  let day := dayOfYear - (153 * month + 2) / 5 + 1
  let year := yearOfCycle + 400 * (shifted / 146097)
  if month < 10 then ⟨year, (month + 3).toNat, day.toNat⟩
  else ⟨year + 1, (month - 9).toNat, day.toNat⟩

def year (d : Date) : Int := d.civil.year

def inCalendar (d : Date) : Bool := Calendar.inCalendar d.year

def dayOfYear (d : Date) : Int := d.number - (newYear d.year).number + 1

def weekday (d : Date) : Int := (d.number + 3) % 7

def daysSince (d : Date) (weekday : Int) : Int := (d.weekday - weekday) % 7

def weekFrom (d : Date) (weekday : Int) : Int := (d.dayOfYear - d.daysSince weekday + 6) / 7

def thursday (d : Date) : Date := ⟨d.number - d.weekday + 3⟩

def isoYear (d : Date) : Int := d.thursday.year

def isoWeek (d : Date) : Int := (d.thursday.dayOfYear - 1) / 7 + 1

def quarter (d : Date) : Int := (d.civil.month - 1) / 3 + 1

def guarded (exists? : Bool) (d : Date) : Option Date := if exists? then some d else none

def ofCivil? (year : Int) (month day : Nat) : Option Date :=
  guarded (Calendar.inCalendar year && decide (1 ≤ month) && decide (month ≤ 12) &&
    decide (1 ≤ day) && decide (day ≤ daysInMonth year month)) (ofCivil ⟨year, month, day⟩)

def ofDayOfYear? (year dayOfYear : Int) : Option Date :=
  guarded (Calendar.inCalendar year && decide (1 ≤ dayOfYear) &&
    decide (dayOfYear ≤ daysInYear year)) ⟨(newYear year).number + dayOfYear - 1⟩

/-- A weekday of a week of the year in which most of the week lies. -/
def ofIsoWeek? (isoYear week weekday : Int) : Option Date :=
  let fourth : Date := ⟨(newYear isoYear).number + 3⟩
  let d : Date := ⟨fourth.number - fourth.weekday + 7 * (week - 1) + weekday⟩
  guarded (d.isoYear == isoYear && d.inCalendar) d

/-- A weekday of a week of the year; the first week begins on the first day that is `start`. -/
def ofWeek? (year week weekday start : Int) : Option Date :=
  let firstWeek := (start - (newYear year).weekday) % 7
  ofDayOfYear? year (1 + firstWeek + 7 * (week - 1) + (weekday - start) % 7)

end Date

end SearchQuery.Calendar
