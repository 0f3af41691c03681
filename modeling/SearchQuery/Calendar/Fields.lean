import SearchQuery.Calendar.Instant

/-!
# Parts of a date and time

A text may give the parts of a date and time in many ways: a year in full or by its last digits, a
day by its month, by the day of the year or by a week.  The parts have to be enough for a date or a
time, and those that are more than enough must agree with it.
-/

set_option autoImplicit false
namespace SearchQuery.Calendar

/-- The parts of a date and time.  An hour is kept as a half of the day and the hour in it. -/
inductive Part where
  | year | century | yearOfCentury
  | isoYear | isoYearOfCentury
  | quarter | month | day | dayOfYear
  | weekFromSunday | weekFromMonday | isoWeek | weekday
  | half | hourOfHalf | minute | second | nanosecond
  | timestamp | offset
  deriving DecidableEq

structure Fields where
  entries : List (Part × Int)

namespace Fields

def none : Fields := ⟨[]⟩

def get? (f : Fields) (part : Part) : Option Int := f.entries.lookup part

def put? (part : Part) (value : Int) (f : Fields) : Option Fields :=
  match f.get? part with
  | .none => some ⟨(part, value) :: f.entries⟩
  | some known => if known = value then some f else .none

def putHour? (hour : Int) (f : Fields) : Option Fields := do
  (← f.put? .half (hour / 12)).put? .hourOfHalf (hour % 12)

def agrees (f : Fields) (part : Part) (value : Int) : Bool := (f.get? part).all (· == value)

inductive Lack where
  | tooFew
  | conflict
  deriving DecidableEq

def orConflict {α : Type} : Option α → Except Lack α
  | some x => .ok x
  | .none => .error .conflict

/-- The year that is given in full, by its century and its place there, or by the latter alone,
which then stands for a year from 1970 to 2069. -/
def resolveYear (year hundreds last : Option Int) : Except Lack (Option Int) :=
  match year, hundreds, last with
  | y, .none, .none => .ok y
  | some y, h, l =>
    if 0 ≤ y ∧ h.all (· == y / 100) ∧ l.all (· == y % 100) then .ok (some y)
    else .error .conflict
  | .none, some h, some l => .ok (some (100 * h + l))
  | .none, .none, some l => .ok (some (l + if l < 70 then 2000 else 1900))
  | .none, some _, .none => .error .tooFew

def agreesYear (f : Fields) (full hundreds last : Part) (year : Int) : Bool :=
  f.agrees full year &&
    if 0 ≤ year then f.agrees hundreds (year / 100) && f.agrees last (year % 100)
    else (f.get? hundreds).isNone && (f.get? last).isNone

def agreesCivil (f : Fields) (d : Date) : Bool :=
  f.agreesYear .year .century .yearOfCentury d.year && f.agrees .month d.civil.month &&
    f.agrees .day d.civil.day

def agreesIsoWeek (f : Fields) (d : Date) : Bool :=
  f.agrees .isoYear d.isoYear &&
    (f.get? .isoYearOfCentury).all (fun y => decide (0 ≤ d.isoYear) && y == d.isoYear % 100) &&
    f.agrees .isoWeek d.isoWeek && f.agrees .weekday d.weekday

def sunday : Int := 6
def monday : Int := 0

def agreesDayOfYear (f : Fields) (d : Date) : Bool :=
  f.agrees .dayOfYear d.dayOfYear && f.agrees .weekFromSunday (d.weekFrom sunday) &&
    f.agrees .weekFromMonday (d.weekFrom monday)

def byMonth (f : Fields) (year month day : Int) : Except Lack (Bool × Date) := do
  let d ← orConflict (Date.ofCivil? year month.toNat day.toNat)
  return (f.agreesIsoWeek d && f.agreesDayOfYear d, d)

def byYear (f : Fields) (d? : Option Date) : Except Lack (Bool × Date) := do
  let d ← orConflict d?
  return (f.agreesCivil d && f.agreesIsoWeek d && f.agreesDayOfYear d, d)

def byIsoWeek (f : Fields) (year week weekday : Int) : Except Lack (Bool × Date) := do
  let d ← orConflict (Date.ofIsoWeek? year week weekday)
  return (f.agreesCivil d && f.agreesDayOfYear d, d)

/-- The date of a year, which is a day of a month or else the first of these that is known: a day of
the year, or a weekday of a week. -/
def ofYear? (f : Fields) (year : Int) : Option (Except Lack (Bool × Date)) :=
  match f.get? .month, f.get? .day with
  | some month, some day => some (f.byMonth year month day)
  | _, _ =>
    match f.get? .dayOfYear, f.get? .weekday with
    | some day, _ => some (f.byYear (Date.ofDayOfYear? year day))
    | .none, .none => .none
    | .none, some weekday =>
      match f.get? .weekFromSunday, f.get? .weekFromMonday with
      | some week, _ => some (f.byYear (Date.ofWeek? year week weekday sunday))
      | .none, some week => some (f.byYear (Date.ofWeek? year week weekday monday))
      | .none, .none => .none

def ofIsoYear? (f : Fields) (year : Int) : Option (Except Lack (Bool × Date)) :=
  match f.get? .isoWeek, f.get? .weekday with
  | some week, some weekday => some (f.byIsoWeek year week weekday)
  | _, _ => .none

def date (f : Fields) : Except Lack Date := do
  let year ← resolveYear (f.get? .year) (f.get? .century) (f.get? .yearOfCentury)
  let isoYear ← resolveYear (f.get? .isoYear) .none (f.get? .isoYearOfCentury)
  match (year.bind f.ofYear?).or (isoYear.bind f.ofIsoYear?) with
  | .none => .error .tooFew
  | some found =>
    let (agreed, d) ← found
    if agreed && f.agrees .quarter d.quarter then .ok d else .error .conflict

/-- A time of the day: the second, and the nanoseconds, which go on to 2·10⁹ in a leap second. -/
structure Time where
  second : Int
  nano : Nat

def time (f : Fields) : Except Lack Time :=
  match f.get? .half, f.get? .hourOfHalf, f.get? .minute with
  | some half, some hour, some minute =>
    let second := f.get? .second
    let leap := second = some 60
    let nano := ((f.get? .nanosecond).getD 0).toNat
    if (f.get? .nanosecond).isSome && second.isNone then .error .tooFew
    else .ok
      ⟨3600 * (12 * half + hour) + 60 * minute + (if leap then 59 else second.getD 0),
        if leap then nano + 1000000000 else nano⟩
  | _, _, _ => .error .tooFew

def join (d : Date) (t : Time) : Instant := ⟨Instant.secondsPerDay * d.number + t.second, t.nano⟩

/-- Whether a timestamp denotes a local instant at an offset; it may count a leap second as the
second behind it. -/
def stamps (timestamp offset : Int) (i : Instant) : Bool :=
  timestamp == i.second - offset ||
    (decide (1000000000 ≤ i.nano) && timestamp == i.second - offset + 1)

def ofTimestamp (f : Fields) (timestamp offset : Int) : Except Lack Instant := do
  let i : Instant := ⟨timestamp + offset, 0⟩
  if !i.inCalendar then .error .conflict
  let leap := f.get? .second = some 60
  let second := i.second % 60
  if leap && second != 59 && second != 0 then .error .conflict
  let i : Instant := if leap && second == 0 then ⟨i.second - 1, 0⟩ else i
  let known := do
    let f ← if leap then some f else f.put? .second second
    let f ← f.put? .year i.date.year
    let f ← f.put? .dayOfYear i.date.dayOfYear
    let f ← f.putHour? (i.secondOfDay / 3600)
    f.put? .minute (i.secondOfDay / 60 % 60)
  let f ← orConflict known
  return join (← f.date) (← f.time)

def localInstant (f : Fields) (offset : Int) : Except Lack Instant :=
  match f.date, f.time, f.get? .timestamp with
  | .ok d, .ok t, timestamp =>
    let i := join d t
    if timestamp.all fun s => stamps s offset i then .ok i else .error .conflict
  | .error .conflict, _, some _ => .error .conflict
  | _, .error .conflict, some _ => .error .conflict
  | _, _, some timestamp => f.ofTimestamp timestamp offset
  | .error e, _, .none => .error e
  | .ok _, .error e, .none => .error e

def zonedInstant? (f : Fields) : Option Instant := do
  let offset ← match f.get? .offset, f.get? .timestamp with
    | some offset, _ => some offset
    | .none, some _ => some 0
    | .none, .none => .none
  let i ← (f.localInstant offset).toOption
  if offset.natAbs < 86400 then
    let universal : Instant := ⟨i.second - offset, i.nano⟩
    if universal.inCalendar then some universal else .none
  else .none

/-- The instant that the parts denote: with an offset, else in universal time, else the midnight of
a date. -/
def instant? (f : Fields) : Option Instant :=
  f.zonedInstant? <|> (f.localInstant 0).toOption <|> f.date.toOption.map Instant.midnight

end Fields

end SearchQuery.Calendar
