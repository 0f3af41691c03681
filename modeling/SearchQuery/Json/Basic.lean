/-!
# JSON values

An object is the list of its members.  A document is read into members in the order of its text;
`Json.normalize` sorts them by key and keeps the last of several with one key.
-/

set_option autoImplicit false
namespace SearchQuery

/-- Whole numbers are exact within 64 bits, signed or unsigned; every other number is of double
precision. -/
inductive Json.Number where
  | integer (n : Int) (bounds : -0x8000000000000000 ≤ n ∧ n < 0x10000000000000000)
  | real (x : Float)

inductive Json where
  | null
  | boolean (value : Bool)
  | number (value : Json.Number)
  | string (text : String)
  | array (items : List Json)
  | object (members : List (String × Json))

namespace Json

def Number.toFloat : Number → Float
  | .integer n _ => if n < 0 then -Float.ofNat n.natAbs else Float.ofNat n.natAbs
  | .real x => x

/-- A number of double precision; what is not finite has no number and is null. -/
def ofFloat (x : Float) : Json := if x.isFinite then .number (.real x) else .null

def ofUInt32 (n : UInt32) : Json :=
  .number (.integer n.toNat (by have := n.toNat_lt; omega))

def ofInt64 (n : Int64) : Json :=
  .number (.integer n.toInt (by have := n.toInt_lt; have := n.le_toInt; omega))

def isNumber : Json → Bool
  | .number _ => true
  | _ => false

def isString : Json → Bool
  | .string _ => true
  | _ => false

/-- The value under a key, of several the first. -/
def lookup (key : String) : List (String × Json) → Option Json
  | [] => none
  | (k, v) :: rest => if k = key then some v else lookup key rest

def hasKey (members : List (String × Json)) (key : String) : Bool := (lookup key members).isSome

def putMember (key : String) (value : Json) : List (String × Json) → List (String × Json)
  | [] => [(key, value)]
  | (k, v) :: rest =>
    if key < k then (key, value) :: (k, v) :: rest
    else if key = k then (key, value) :: rest
    else (k, v) :: putMember key value rest

/-- Members sorted by key; of several with one key the last stays. -/
def sortMembers (members : List (String × Json)) : List (String × Json) :=
  members.foldl (fun sorted m => putMember m.1 m.2 sorted) []

mutual

def normalize : Json → Json
  | .array items => .array (normalizeItems items)
  | .object members => .object (sortMembers (normalizeMembers members))
  | v => v

def normalizeItems : List Json → List Json
  | [] => []
  | v :: rest => v.normalize :: normalizeItems rest

def normalizeMembers : List (String × Json) → List (String × Json)
  | [] => []
  | (k, v) :: rest => (k, v.normalize) :: normalizeMembers rest

end

mutual

def depth : Json → Nat
  | .array items => depthItems items + 1
  | .object members => depthMembers members + 1
  | _ => 0

def depthItems : List Json → Nat
  | [] => 0
  | v :: rest => max v.depth (depthItems rest)

def depthMembers : List (String × Json) → Nat
  | [] => 0
  | (_, v) :: rest => max v.depth (depthMembers rest)

end

end Json

end SearchQuery
