/-!
# Reading numbers

A numeral is an optional sign, decimal digits with at most one point among or beside them, and an
optional exponent; at least one digit is needed, and one in the exponent.  The words `inf`,
`infinity` and `nan` are numerals too, in any case.  A numeral denotes the double-precision number
nearest to it.
-/

set_option autoImplicit false
namespace SearchQuery.Decimal

/-- The double-precision number nearest to `coefficient` · 10^`exponent`. -/
def nearest (coefficient : Nat) (exponent : Int) : Float :=
  let size := (Nat.toDigits 10 coefficient).length + exponent
  if coefficient = 0 ∨ size < -400 then 0.0
  else if 400 < size then 1.0 / 0.0
  else Float.ofScientific coefficient (decide (exponent < 0)) exponent.natAbs

def isDigit (c : Char) : Bool := decide ('0' ≤ c) && decide (c ≤ '9')

def digitsValue (ds : List Char) : Nat := ds.foldl (fun n c => 10 * n + (c.toNat - 48)) 0

def takeSign : List Char → Bool × List Char
  | '-' :: rest => (true, rest)
  | '+' :: rest => (false, rest)
  | cs => (false, cs)

/-- The exponent behind the digits of a numeral; `some 0` where there is none. -/
def readExponent : List Char → Option Int
  | [] => some 0
  | e :: rest =>
    if e = 'e' ∨ e = 'E' then
      let (negative, ds) := takeSign rest
      if ds.isEmpty || !ds.all isDigit then none
      else some (if negative then -(digitsValue ds : Int) else digitsValue ds)
    else none

def readUnsigned (cs : List Char) : Option Float :=
  let word := String.ofList (cs.map Char.toLower)
  if word = "inf" ∨ word = "infinity" then some (1.0 / 0.0)
  else if word = "nan" then some (0.0 / 0.0)
  else
    let whole := cs.takeWhile isDigit
    let rest := cs.dropWhile isDigit
    let behindPoint := match rest with
      | '.' :: r => r
      | _ => []
    let places := behindPoint.takeWhile isDigit
    let tail := match rest with
      | '.' :: r => r.dropWhile isDigit
      | r => r
    if whole.isEmpty && places.isEmpty then none
    else
      (readExponent tail).map fun e =>
        nearest (digitsValue (whole ++ places)) (e - places.length)

def read? (text : String) : Option Float :=
  let (negative, rest) := takeSign text.toList
  (readUnsigned rest).map fun x => if negative then -x else x

end SearchQuery.Decimal
