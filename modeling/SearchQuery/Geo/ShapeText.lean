import SearchQuery.Geo.Shape
import SearchQuery.Json.Typed

/-!
# Shapes in a text

A shape is read straight from a text in two stages: its type is reported on with its place in the
text, and what belongs to the type is collected first and reported on without one.
-/

set_option autoImplicit false
namespace SearchQuery.Geo.Shape

open Json (Cursor TextError)

def title : String := "internally tagged enum Shape"

def readTextTag (c : Cursor) : Except TextError (Tag × Cursor) := do
  let (name, c) ← c.readText "variant identifier"
  match readTag false (.string name) with
  | .ok tag => return (tag, c)
  | .error m => c.mismatch m

/-- What has been read of an object: the type, and the other members in reverse. -/
abbrev Gathered := Option Tag × List (String × Json)

def typeMember : Cursor.Member Gathered :=
  ("type", fun (_, others) c => do
    let (tag, c) ← readTextTag c
    return ((some tag, others), c))

def readRest (tag : Tag) (parts : List (Result Empty)) (v : Json) : Except TextError Shape :=
  (readRecord tag parts v).mapError TextError.unplaced

def readTextObject (c : Cursor) : Except TextError (Shape × Cursor) := do
  let gather (key : String) (v : Json) (g : Gathered) : Gathered := (g.1, (key, v) :: g.2)
  let (g, c) ← c.readObject title [typeMember] gather (none, [])
  match g.1 with
  | none => c.mismatch (.missingField "type")
  | some tag =>
    let others := g.2.reverse
    let parts := ((memberParts others).lookup "geometries").getD []
    let shape ← readRest tag parts (.object others)
    return (shape, c)

def readTextArray (c : Cursor) : Except TextError (Shape × Cursor) := do
  let (more, c) ← Cursor.untyped (c.next.hasItem true)
  if more then
    let (tag, c) ← readTextTag c
    let fuel := 2 * c.rest.length + 2
    let (items, c) ← Cursor.untyped (Json.readItems fuel (Json.maxDepth - 1) false c)
    let shape ← readRest tag ((itemParts items).headD []) (.array items)
    return (shape, c)
  else c.next.mismatch (.missingField "type")

def readText (bytes : List UInt8) : Except TextError Shape :=
  Cursor.complete do
    let c ← (Cursor.ofBytes bytes).toValue
    if c.rest.head? = some 91 then readTextArray c
    else readTextObject c

end SearchQuery.Geo.Shape
