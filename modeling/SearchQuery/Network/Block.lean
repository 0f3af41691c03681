import SearchQuery.Network.Address
import SearchQuery.Text.Blank

/-!
# Blocks of network addresses

A block is the set of the addresses that agree with one on their first bits.  It is written as an
address, a slash and the number of those bits; an address alone is a block of one.
-/

set_option autoImplicit false
namespace SearchQuery.Network

def Address.width : Address → Nat
  | .v4 _ => 32
  | .v6 _ => 128

def keepFirst {w : Nat} (n : Nat) (bits : BitVec w) : BitVec w :=
  bits &&& (BitVec.allOnes w <<< (w - n))

def Address.mask (n : Nat) : Address → Address
  | .v4 bits => .v4 (keepFirst n bits)
  | .v6 bits => .v6 (keepFirst n bits)

/-- The first address of a block and the number of bits that its addresses agree on. -/
structure Block where
  address : Address
  length : Nat
  deriving DecidableEq

inductive BlockFault where
  | address
  | length (text : String)
  | tooLong (length width : Nat)

def BlockFault.message : BlockFault → String
  | address => "invalid IP address syntax"
  | length text => s!"invalid prefix length '{text}'"
  | tooLong n width => s!"prefix length {n} exceeds {width} bits"

/-- A decimal number below 256, which may have a plus sign and leading zeros. -/
def byte? (cs : List Char) : Option Nat :=
  let digits := match cs with
    | '+' :: r => r
    | r => r
  let n := Decimal.digitsValue digits
  if digits.isEmpty || !digits.all Decimal.isDigit || decide (255 < n) then none else some n

def Block.make (a : Address) (n : Nat) : Except BlockFault Block :=
  if a.width < n then .error (.tooLong n a.width) else .ok ⟨a.mask n, n⟩

def Block.read (text : String) : Except BlockFault Block :=
  let cs := trimChars text.toList
  match Address.read? (cs.takeWhile (· != '/')) with
  | none => .error .address
  | some a =>
    match cs.dropWhile (· != '/') with
    | [] => Block.make a a.width
    | _ :: length =>
      match byte? length with
      | none => .error (.length (String.ofList length))
      | some n => Block.make a n

end SearchQuery.Network
