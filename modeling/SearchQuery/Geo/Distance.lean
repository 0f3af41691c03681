import SearchQuery.Decimal.Reading
import SearchQuery.Text.Blank

/-!
# Distances

A distance is a number with an optional unit, such as `10km` or `2.5 mi`; without a unit it counts
meters.
-/

set_option autoImplicit false
namespace SearchQuery.Geo.Distance

def units : List (String × Float) := [
  ("mm", 0.001), ("millimeters", 0.001),
  ("cm", 0.01), ("centimeters", 0.01),
  ("m", 1.0), ("meters", 1.0),
  ("km", 1000.0), ("kilometers", 1000.0),
  ("in", 0.0254), ("inch", 0.0254),
  ("ft", 0.3048), ("feet", 0.3048),
  ("yd", 0.9144), ("yards", 0.9144),
  ("mi", 1609.344), ("miles", 1609.344),
  ("nm", 1852.0), ("nauticalmiles", 1852.0)]

def endsWith (cs : List Char) (unit : String × Float) : Bool := unit.1.toList.isSuffixOf cs

def longestUnit (cs : List Char) : Option (String × Float) :=
  (units.filter (endsWith cs)).foldl
    (fun best u => match best with
      | some b => if b.1.length ≤ u.1.length then some u else best
      | none => some u)
    none

/-- The distance in meters, if the text writes a finite one above zero. -/
def meters? (text : String) : Option Float := do
  let cs := (trimChars text.toList).map Char.toLower
  let (number, unit) := match longestUnit cs with
    | some (name, length) => (cs.take (cs.length - name.length), length)
    | none => (cs, 1.0)
  let value ← Decimal.read? (String.ofList (trimChars number))
  if value.isFinite && decide (0.0 < value) then some (value * unit) else none

end SearchQuery.Geo.Distance
