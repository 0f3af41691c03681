import SearchQuery.Calendar.Date

/-!
# Instants

Instants in time to the nanosecond.  The second before a leap second lasts for two, so that its
nanoseconds go on to 2·10⁹.
-/

set_option autoImplicit false
namespace SearchQuery.Calendar

/-- The seconds since 1970 and the nanoseconds since then. -/
structure Instant where
  second : Int
  nano : Nat
  deriving DecidableEq

namespace Instant

def le (a b : Instant) : Prop :=
  a.second < b.second ∨ a.second = b.second ∧ a.nano ≤ b.nano

instance : LE Instant := ⟨le⟩

instance (a b : Instant) : Decidable (a ≤ b) :=
  inferInstanceAs (Decidable (a.second < b.second ∨ a.second = b.second ∧ a.nano ≤ b.nano))

def secondsPerDay : Int := 86400

def date (i : Instant) : Date := ⟨i.second / secondsPerDay⟩

def secondOfDay (i : Instant) : Int := i.second % secondsPerDay

def midnight (d : Date) : Instant := ⟨secondsPerDay * d.number, 0⟩

def inCalendar (i : Instant) : Bool := i.date.inCalendar

def padded (width n : Nat) : String :=
  let digits := toString n
  String.ofList (List.replicate (width - digits.length) '0') ++ digits

def yearText (year : Int) : String :=
  if 0 ≤ year ∧ year ≤ 9999 then padded 4 year.toNat
  else (if year < 0 then "-" else "+") ++ padded 4 year.natAbs

def fractionText (nano : Nat) : String :=
  if nano = 0 then ""
  else if nano % 1000000 = 0 then "." ++ padded 3 (nano / 1000000)
  else if nano % 1000 = 0 then "." ++ padded 6 (nano / 1000)
  else "." ++ padded 9 nano

/-- The instant in universal time, such as `2024-01-31T23:59:60.500+00:00`. -/
def text (i : Instant) : String :=
  let c := i.date.civil
  let s := i.secondOfDay.toNat
  let leap := 1000000000 ≤ i.nano
  let second := if leap then s % 60 + 1 else s % 60
  let nano := if leap then i.nano - 1000000000 else i.nano
  yearText c.year ++ "-" ++ padded 2 c.month ++ "-" ++ padded 2 c.day ++ "T" ++
    padded 2 (s / 3600) ++ ":" ++ padded 2 (s / 60 % 60) ++ ":" ++ padded 2 second ++
    fractionText nano ++ "+00:00"

end Instant

end SearchQuery.Calendar
