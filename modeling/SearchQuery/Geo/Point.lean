import SearchQuery.Json.Record
import SearchQuery.Decimal.Reading
import SearchQuery.Text.Blank

/-!
# Points on the globe

A point is written as a pair of longitude and latitude.  It is also read from an object with the two
under their names, and from a text with the latitude first.
-/

set_option autoImplicit false
namespace SearchQuery.Geo

structure Point where
  lon : Float
  lat : Float

namespace Point

instance : BEq Point := ⟨fun p q => p.lon == q.lon && p.lat == q.lat⟩

def toJson (p : Point) : Json := .array [Json.ofFloat p.lon, Json.ofFloat p.lat]

def ofText? (text : String) : Option Point := do
  let cs := text.toList
  match cs.dropWhile (· ≠ ',') with
  | [] => none
  | _ :: rest =>
    let lon ← Decimal.read? (String.ofList (trimChars rest))
    let lat ← Decimal.read? (String.ofList (trimChars (cs.takeWhile (· ≠ ','))))
    some ⟨lon, lat⟩

def number? : Json → Option Float
  | .number n => some n.toFloat
  | _ => none

def longitude? (members : List (String × Json)) : Option Float :=
  match Json.lookup "lon" members, Json.lookup "lng" members with
  | some v, none => number? v
  | none, some v => number? v
  | _, _ => none

/-- Reads a point in any of its forms; `refuse` is the reason given for a text that is none. -/
def read {ε : Type} (refuse : String → ε) : Json.Reader ε Point
  | .array [x, y] =>
    match number? x, number? y with
    | some lon, some lat => .ok ⟨lon, lat⟩
    | _, _ => .error (.noAlternative "PointRepr")
  | .object members =>
    match longitude? members, (Json.lookup "lat" members).bind number? with
    | some lon, some lat => .ok ⟨lon, lat⟩
    | _, _ => .error (.noAlternative "PointRepr")
  | .string text =>
    match ofText? text with
    | some p => .ok p
    | none => .error (.refused (refuse text))
  | _ => .error (.noAlternative "PointRepr")

/-- Reads a pair of longitude and latitude, the only form inside shapes. -/
def readPair {ε : Type} : Json.Reader ε Point
  | .array items => do
    match ← Json.readEach Json.real (items.take 2) with
    | [lon, lat] =>
      if items.length = 2 then .ok ⟨lon, lat⟩
      else .error (.invalidLength items.length "2 elements in sequence")
    | few => .error (.invalidLength few.length "an array of length 2")
  | v => .error (.invalidType v.found "an array of length 2")

end Point

end SearchQuery.Geo
