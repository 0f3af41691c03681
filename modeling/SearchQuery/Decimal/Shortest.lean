/-!
# Shortest decimals

A finite number of double precision is m · 2^q.  The reals that round to it form an interval around
it, whose ends belong to it when m is even.  The shortest decimal of the number is the nearest one
to it among the decimals of fewest digits in that interval.  All comparisons are made in natural
numbers.
-/

set_option autoImplicit false
namespace SearchQuery.Decimal

/-- A finite positive number m · 2^q.  `low` tells that the number below it lies half as far away as
the one above. -/
structure Binary where
  significand : Nat
  exponent : Int
  low : Bool

def Binary.ofFloat (x : Float) : Binary :=
  let bits : Nat := x.toBits.toNat
  let fraction : Nat := bits % 0x10000000000000
  let biased : Nat := bits >>> 52 % 2048
  if biased = 0 then ⟨fraction, -1074, false⟩
  else ⟨0x10000000000000 + fraction, Int.ofNat biased - 1075, fraction == 0 && decide (1 < biased)⟩

structure Digits where
  coefficient : Nat
  exponent : Int

/-- Which neighbour wins when a number lies halfway between two decimals. -/
inductive Tie where
  | even
  | up

/-- The decimal on the grid of multiples of 10^k that rounds to `b`, if there is one. -/
def onGrid (tie : Tie) (b : Binary) (k : Int) : Option Digits :=
  let widen := Nat.pow 2 b.exponent.toNat * Nat.pow 10 (-k).toNat
  let grid := 4 * (Nat.pow 2 (-b.exponent).toNat * Nat.pow 10 k.toNat)
  let value := 4 * b.significand * widen
  let least := value - (if b.low then 1 else 2) * widen
  let greatest := value + 2 * widen
  let closed := b.significand % 2 == 0
  let inside := fun n => if closed then decide (least ≤ n) && decide (n ≤ greatest)
    else decide (least < n) && decide (n < greatest)
  let c := value / grid
  let below := c != 0 && inside (c * grid)
  let above := inside ((c + 1) * grid)
  let rest := 2 * (value - c * grid)
  let takeAbove := match tie with
    | .even => decide (grid < rest) || (rest == grid && c % 2 == 1)
    | .up => decide (grid ≤ rest)
  if below && above then some ⟨if takeAbove then c + 1 else c, k⟩
  else if below then some ⟨c, k⟩
  else if above then some ⟨c + 1, k⟩
  else none

def search (tie : Tie) (b : Binary) : Nat → Int → Digits
  | 0, k => ⟨0, k⟩
  | steps + 1, k => (onGrid tie b k).getD (search tie b steps (k - 1))

def topGrid (b : Binary) : Int :=
  (((Nat.log2 b.significand : Int) + 1 + b.exponent) * 30103) / 100000 + 1

def shortest (tie : Tie) (x : Float) : Digits :=
  let b := Binary.ofFloat x
  search tie b 24 (topGrid b)

end SearchQuery.Decimal
