/-!
# Sets of code points

A set of code points is a list of closed ranges.  The tables of character properties are written as
text, one range after another in hexadecimal, and are read by `CodePoints.ofText`.
-/

set_option autoImplicit false
namespace SearchQuery

def hexDigit? (c : Char) : Option Nat :=
  if '0' ≤ c ∧ c ≤ '9' then some (c.toNat - 48)
  else if 'a' ≤ c ∧ c ≤ 'f' then some (c.toNat - 87)
  else if 'A' ≤ c ∧ c ≤ 'F' then some (c.toNat - 55)
  else none

structure CodePoints where
  ranges : List (Nat × Nat)

namespace CodePoints

def contains (s : CodePoints) (c : Char) : Bool :=
  s.ranges.any fun r => decide (r.1 ≤ c.toNat) && decide (c.toNat ≤ r.2)

def unions (sets : List CodePoints) : CodePoints := ⟨sets.flatMap ranges⟩

def closeRange (low : Option Nat) : Option Nat → List (Nat × Nat)
  | none => []
  | some n => [(low.getD n, n)]

/-- Reads ranges from their text: `low` is the lower end of an open range and `n` the number that is
being read.  Whatever is neither a digit nor a dash parts two ranges. -/
def readRanges (low n : Option Nat) : List Char → List (Nat × Nat)
  | [] => closeRange low n
  | c :: rest =>
    if c = '-' then readRanges n none rest
    else
      match hexDigit? c with
      | some d => readRanges low (some (16 * n.getD 0 + d)) rest
      | none => closeRange low n ++ readRanges none none rest

/-- The ranges of a text such as `41-5a 5f 61-7a`. -/
def ofText (text : String) : CodePoints := ⟨readRanges none none text.toList⟩

end CodePoints

end SearchQuery
