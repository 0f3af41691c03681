import SearchQuery.Text.CodePoints
import SearchQuery.Decimal.Reading

/-!
# Network addresses

Addresses of 32 bits, written as four decimal numbers, and of 128 bits, written as eight groups of
hexadecimal digits, where a run of zero groups may be left out and the last two groups may be
written as an address of 32 bits.
-/

set_option autoImplicit false
namespace SearchQuery.Network

inductive Address where
  | v4 (bits : BitVec 32)
  | v6 (bits : BitVec 128)
  deriving DecidableEq

namespace Address

abbrev Chars := List Char

def takeByte? (cs : Chars) : Option (Nat × Chars) :=
  let digits := cs.takeWhile Decimal.isDigit
  let n := Decimal.digitsValue digits
  if digits.isEmpty || (digits.head? == some '0' && digits != ['0']) ||
      decide (3 < digits.length) || decide (255 < n) then none
  else some (n, cs.drop digits.length)

def isHex (c : Char) : Bool := (hexDigit? c).isSome

def takeGroup? (cs : Chars) : Option (Nat × Chars) :=
  let digits := cs.takeWhile isHex
  if digits.isEmpty || decide (4 < digits.length) then none
  else some (digits.foldl (fun n d => 16 * n + (hexDigit? d).getD 0) 0, cs.drop digits.length)

def takeChar? (c : Char) : Chars → Option Chars
  | d :: r => if d = c then some r else none
  | [] => none

def takeV4? (cs : Chars) : Option (BitVec 32 × Chars) := do
  let (a, r) ← takeByte? cs
  let (b, r) ← takeByte? (← takeChar? '.' r)
  let (c, r) ← takeByte? (← takeChar? '.' r)
  let (d, r) ← takeByte? (← takeChar? '.' r)
  some (BitVec.ofNat 32 (((a * 256 + b) * 256 + c) * 256 + d), r)

/-- At most `limit` groups with colons between them; whether they end with an address of 32 bits is
told with them. -/
def takeGroups : (limit : Nat) → (first : Bool) → Chars → List Nat × Bool × Chars
  | 0, _, cs => ([], false, cs)
  | left + 1, first, cs =>
    match if first then some cs else takeChar? ':' cs with
    | none => ([], false, cs)
    | some start =>
      match if left = 0 then none else takeV4? start with
      | some (bits, rest) => ([bits.toNat / 65536, bits.toNat % 65536], true, rest)
      | none =>
        match takeGroup? start with
        | some (g, rest) =>
          let (groups, embedded, rest) := takeGroups left false rest
          (g :: groups, embedded, rest)
        | none => ([], false, cs)

def ofGroups (groups : List Nat) : BitVec 128 :=
  BitVec.ofNat 128 (groups.foldl (fun n g => 65536 * n + g) 0)

/-- Eight groups, or two runs of groups around two colons that stand for the zero groups between. -/
def takeV6? (cs : Chars) : Option (BitVec 128 × Chars) :=
  let (head, embedded, rest) := takeGroups 8 true cs
  if head.length = 8 then some (ofGroups head, rest)
  else if embedded then none
  else
    match rest with
    | ':' :: ':' :: rest =>
      let (tail, _, rest) := takeGroups (7 - head.length) true rest
      let zeros := List.replicate (8 - head.length - tail.length) 0
      some (ofGroups (head ++ zeros ++ tail), rest)
    | _ => none

def read? (text : Chars) : Option Address :=
  match takeV4? text with
  | some (bits, rest) => if rest.isEmpty then some (v4 bits) else none
  | none =>
    match takeV6? text with
    | some (bits, rest) => if rest.isEmpty then some (v6 bits) else none
    | none => none

def textV4 (bits : BitVec 32) : String :=
  let byte (i : Nat) : String := toString (bits.toNat >>> (8 * (3 - i)) % 256)
  ".".intercalate [byte 0, byte 1, byte 2, byte 3]

def groups (bits : BitVec 128) : List Nat :=
  (List.range 8).map fun i => bits.toNat >>> (16 * (7 - i)) % 65536

def groupsText (groups : List Nat) : String :=
  ":".intercalate (groups.map fun g => String.ofList (Nat.toDigits 16 g))

def leadingZeros (groups : List Nat) : Nat := (groups.takeWhile (· == 0)).length

def longestZeros (groups : List Nat) : Nat × Nat :=
  (List.range groups.length).foldl (fun best i =>
    let run := leadingZeros (groups.drop i)
    if best.2 < run then (i, run) else best) (0, 0)

/-- Addresses whose first 96 bits are `::ffff` end with an address of 32 bits. -/
def textV6 (bits : BitVec 128) : String :=
  let gs := groups bits
  if gs.take 6 = [0, 0, 0, 0, 0, 65535] then "::ffff:" ++ textV4 (bits.setWidth 32)
  else
    let (start, length) := longestZeros gs
    if 1 < length then groupsText (gs.take start) ++ "::" ++ groupsText (gs.drop (start + length))
    else groupsText gs

def text : Address → String
  | v4 bits => textV4 bits
  | v6 bits => textV6 bits

end Address

end SearchQuery.Network
