import SearchQuery.Decimal.Shortest

/-!
# Layouts of numbers

The texts of a number of double precision: the one of JSON documents, which turns to an exponent for
very large and very small numbers, the plain one of messages, which never does, and the one with a
fixed number of places.
-/

set_option autoImplicit false
namespace SearchQuery.Decimal

def zeros (n : Nat) : List Char := List.replicate n '0'

def digitChars (n : Nat) : List Char := Nat.toDigits 10 n

def isNegative (x : Float) : Bool := decide (0x8000000000000000 ≤ x.toBits.toNat)

def positional (d : Digits) : List Char × List Char :=
  let ds := digitChars d.coefficient
  if 0 ≤ d.exponent then (ds ++ zeros d.exponent.toNat, [])
  else
    let places := (-d.exponent).toNat
    if places < ds.length then (ds.take (ds.length - places), ds.drop (ds.length - places))
    else (['0'], zeros (places - ds.length) ++ ds)

def joinPoint : List Char × List Char → List Char
  | (whole, []) => whole
  | (whole, places) => whole ++ '.' :: places

def scientific (d : Digits) : List Char :=
  let ds := digitChars d.coefficient
  let e := d.exponent + ds.length - 1
  joinPoint (ds.take 1, ds.drop 1) ++ 'e' :: (if e < 0 then '-' else '+') :: digitChars e.natAbs

def withSign (x : Float) (text : List Char) : String :=
  String.ofList (if isNegative x then '-' :: text else text)

/-- The text of a finite number in a JSON document: positional from 1e-5 up to 1e16, with at least
one digit behind the point. -/
def documentText (x : Float) : String :=
  if x == 0.0 then withSign x ['0', '.', '0']
  else
    let d := shortest .even x
    let e := d.exponent + (digitChars d.coefficient).length - 1
    if -5 ≤ e ∧ e < 16 then
      match positional d with
      | (whole, []) => withSign x (whole ++ ['.', '0'])
      | parts => withSign x (joinPoint parts)
    else withSign x (scientific d)

/-- The text of a number in a message: positional at every size, whole numbers without a point. -/
def plainText (x : Float) : String :=
  if x.isNaN then "NaN"
  else if x.isInf then withSign x ['i', 'n', 'f']
  else if x == 0.0 then withSign x ['0']
  else withSign x (joinPoint (positional (shortest .up x)))

def divideRounded (n d : Nat) : Nat :=
  let q := n / d
  let rest := 2 * (n % d)
  if d < rest ∨ (rest = d ∧ q % 2 = 1) then q + 1 else q

def fixedText (places : Nat) (x : Float) : String :=
  if x.isNaN then "NaN"
  else if x.isInf then withSign x ['i', 'n', 'f']
  else
    let b := Binary.ofFloat x
    let scaled := divideRounded (b.significand * Nat.pow 2 b.exponent.toNat * Nat.pow 10 places)
      (Nat.pow 2 (-b.exponent).toNat)
    let ds := digitChars scaled
    let padded := zeros (places + 1 - ds.length) ++ ds
    let whole := padded.length - places
    withSign x (joinPoint (padded.take whole, padded.drop whole))

end SearchQuery.Decimal
