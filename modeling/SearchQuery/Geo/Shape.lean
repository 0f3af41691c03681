import SearchQuery.Geo.Point
import SearchQuery.Geo.Distance

/-!
# Shapes

The figures of a geographic query, how they are written, and when a figure is sound.
-/

set_option autoImplicit false
namespace SearchQuery.Geo

inductive Shape where
  | point (center : Point)
  | lineString (line : List Point)
  | polygon (rings : List (List Point))
  | multiPoint (points : List Point)
  | multiLineString (lines : List (List Point))
  | multiPolygon (polygons : List (List (List Point)))
  | envelope (corners : List Point)
  | circle (center : Point) (radius : String)
  | collection (shapes : List Shape)

inductive Relation where
  | intersects
  | within
  | contains
  deriving DecidableEq

namespace Relation

def named : List (String × Relation) :=
  [("intersects", intersects), ("within", within), ("contains", contains)]

def name : Relation → String
  | intersects => "intersects"
  | within => "within"
  | contains => "contains"

end Relation

namespace Shape

def pointsJson (points : List Point) : Json := .array (points.map Point.toJson)

def linesJson (lines : List (List Point)) : Json := .array (lines.map pointsJson)

def tagged (type : String) (members : List (String × Json)) : Json :=
  .object (("type", .string type) :: members)

mutual

def toJson : Shape → Json
  | .point p => tagged "point" [("coordinates", p.toJson)]
  | .lineString line => tagged "linestring" [("coordinates", pointsJson line)]
  | .polygon rings => tagged "polygon" [("coordinates", linesJson rings)]
  | .multiPoint points => tagged "multipoint" [("coordinates", pointsJson points)]
  | .multiLineString lines => tagged "multilinestring" [("coordinates", linesJson lines)]
  | .multiPolygon polygons =>
    tagged "multipolygon" [("coordinates", .array (polygons.map linesJson))]
  | .envelope corners => tagged "envelope" [("coordinates", pointsJson corners)]
  | .circle center radius =>
    tagged "circle" [("coordinates", center.toJson), ("radius", .string radius)]
  | .collection shapes => tagged "geometrycollection" [("geometries", .array (toJsons shapes))]

def toJsons : List Shape → List Json
  | [] => []
  | s :: rest => s.toJson :: toJsons rest

end

inductive Tag where
  | point | lineString | polygon | multiPoint | multiLineString | multiPolygon
  | envelope | circle | collection

namespace Tag

def named : List (String × Tag) := [
  ("point", point), ("linestring", lineString), ("polygon", polygon),
  ("multipoint", multiPoint), ("multilinestring", multiLineString),
  ("multipolygon", multiPolygon), ("envelope", envelope), ("circle", circle),
  ("geometrycollection", collection)]

def title : Tag → String
  | point => "struct variant Shape::Point"
  | lineString => "struct variant Shape::LineString"
  | polygon => "struct variant Shape::Polygon"
  | multiPoint => "struct variant Shape::MultiPoint"
  | multiLineString => "struct variant Shape::MultiLineString"
  | multiPolygon => "struct variant Shape::MultiPolygon"
  | envelope => "struct variant Shape::Envelope"
  | circle => "struct variant Shape::Circle"
  | collection => "struct variant Shape::GeometryCollection"

end Tag

section Reading
variable {ε : Type}

abbrev Result (ε : Type) := Except (Json.Mismatch ε) Shape

/-- Reads the type of a shape.  Inside a collection the type may also be given by its number. -/
def readTag (inside : Bool) : Json.Reader ε Tag
  | .string name =>
    match Tag.named.lookup name with
    | some tag => .ok tag
    | none => .error (.unknownVariant name (Tag.named.map (·.1)))
  | v =>
    match inside, v with
    | true, .number (.integer (.ofNat n) _) =>
      match Tag.named[n]? with
      | some (_, tag) => .ok tag
      | none => .error (.invalidValue (.integer n) "variant index 0 <= i < 9")
    | _, v => .error (.invalidType v.found "variant identifier")

def takeTag (inside : Bool) (tag : Option Tag) :
    List (String × Json) → Except (Json.Mismatch ε) (Tag × List (String × Json))
  | [] =>
    match tag with
    | some tag => .ok (tag, [])
    | none => .error (.missingField "type")
  | (key, v) :: rest =>
    if key = "type" then
      match tag with
      | some _ => .error (.duplicateField "type")
      | none => do
        let tag ← readTag inside v
        takeTag inside (some tag) rest
    else do
      let (tag, others) ← takeTag inside tag rest
      .ok (tag, (key, v) :: others)

def firstFault : List (Result ε) → Except (Json.Mismatch ε) (List Shape)
  | [] => .ok []
  | r :: rest => do
    let s ← r
    let more ← firstFault rest
    return s :: more

/-- The reader of a list of shapes that have been read already. -/
def readParts (parts : List (Result ε)) : Json.Reader ε (List Shape)
  | .array _ => firstFault parts
  | v => .error (.invalidType v.found "a sequence")

def record (parts : List (Result ε)) : Tag → Json.Record ε Shape
  | .point => point <$> .required "coordinates" Point.readPair
  | .lineString => lineString <$> .required "coordinates" (Json.listOf Point.readPair)
  | .polygon => polygon <$> .required "coordinates" (Json.listOf (Json.listOf Point.readPair))
  | .multiPoint => multiPoint <$> .required "coordinates" (Json.listOf Point.readPair)
  | .multiLineString =>
    multiLineString <$> .required "coordinates" (Json.listOf (Json.listOf Point.readPair))
  | .multiPolygon => multiPolygon <$>
      .required "coordinates" (Json.listOf (Json.listOf (Json.listOf Point.readPair)))
  | .envelope => envelope <$> .required "coordinates" (Json.listOf Point.readPair)
  | .circle =>
    circle <$> .required "coordinates" Point.readPair <*> .required "radius" Json.text
  | .collection => collection <$> .required "geometries" (readParts parts)

def readRecord (tag : Tag) (parts : List (Result ε)) (v : Json) : Result ε :=
  let r := record parts tag
  let count := r.checks.length
  let surplus := if count = 1 then "1 element in sequence" else s!"{count} elements in sequence"
  r.read tag.title surplus v

def readObject (inside : Bool) (members : List (String × Json))
    (parts : List (String × List (Result ε))) : Except (Json.Mismatch ε) Shape := do
  let (tag, others) ← takeTag inside none members
  readRecord tag ((parts.lookup "geometries").getD []) (.object others)

def readSequence (inside : Bool) (items : List Json) (parts : List (List (Result ε))) :
    Except (Json.Mismatch ε) Shape :=
  match items with
  | [] => .error (.missingField "type")
  | first :: rest => do
    let tag ← readTag inside first
    readRecord tag ((parts.drop 1).headD []) (.array rest)

mutual

/-- Reads a shape, an object with its type among its members or an array with its type in front. -/
def readAt (inside : Bool) : Json → Result ε
  | .object members => readObject inside members (memberParts members)
  | .array items => readSequence inside items (itemParts items)
  | v => .error (.invalidType v.found "internally tagged enum Shape")

def memberParts : List (String × Json) → List (String × List (Result ε))
  | [] => []
  | (key, v) :: rest => (key, parts v) :: memberParts rest

def itemParts : List Json → List (List (Result ε))
  | [] => []
  | v :: rest => parts v :: itemParts rest

def parts : Json → List (Result ε)
  | .array items => readEach items
  | _ => []

def readEach : List Json → List (Result ε)
  | [] => []
  | v :: rest => readAt true v :: readEach rest

end

def read : Json.Reader ε Shape := readAt false

end Reading

end Shape

inductive Fault where
  | latitude (p : Point)
  | longitude (p : Point)
  | upsideDown (top bottom : Float)
  | polygonTooSmall (points : Nat)
  | distance (text : String)
  | noPoints | noLines | noPolygons | noShapes | noRings
  | lineTooShort (points : Nat)
  | ringTooShort (points : Nat)
  | ringOpen
  | corners (count : Nat)

namespace Fault

def point (p : Point) (reason : String) : String :=
  s!"invalid geo point (lon {Decimal.plainText p.lon}, lat {Decimal.plainText p.lat}): {reason}"

def shape (reason : String) : String := "invalid geo shape: " ++ reason

def message : Fault → String
  | latitude p => point p "latitude must be between -90 and 90"
  | longitude p => point p "longitude must be between -180 and 180"
  | upsideDown top bottom =>
    shape ("bounding box top latitude " ++ Decimal.plainText top ++ " is below bottom latitude " ++
      Decimal.plainText bottom)
  | polygonTooSmall n => s!"geo polygon needs at least 3 points, got {n}"
  | distance text => s!"invalid geo distance '{text}'"
  | noPoints => shape "multipoint has no points"
  | noLines => shape "multilinestring has no lines"
  | noPolygons => shape "multipolygon has no polygons"
  | noShapes => shape "geometrycollection is empty"
  | noRings => shape "polygon has no rings"
  | lineTooShort n => shape s!"linestring needs at least 2 points, got {n}"
  | ringTooShort n => shape s!"polygon ring needs at least 4 points, got {n}"
  | ringOpen => shape "polygon ring is not closed"
  | corners n => shape s!"envelope needs exactly 2 corners, got {n}"

end Fault

def within (x least greatest : Float) : Bool :=
  x.isFinite && decide (least ≤ x) && decide (x ≤ greatest)

def Point.check (p : Point) : Except Fault Unit :=
  if !within p.lat (-90.0) 90.0 then .error (.latitude p)
  else if !within p.lon (-180.0) 180.0 then .error (.longitude p)
  else .ok ()

def checkEach {α : Type} (check : α → Except Fault Unit) : List α → Except Fault Unit
  | [] => .ok ()
  | x :: rest => do
    check x
    checkEach check rest

def checkBox (topLeft bottomRight : Point) : Except Fault Unit := do
  topLeft.check
  bottomRight.check
  if topLeft.lat < bottomRight.lat then .error (.upsideDown topLeft.lat bottomRight.lat)

def checkDistance (text : String) : Except Fault Float :=
  match Distance.meters? text with
  | some meters => .ok meters
  | none => .error (.distance text)

def checkPolygonPoints (points : List Point) : Except Fault Unit :=
  if points.length < 3 then .error (.polygonTooSmall points.length)
  else checkEach Point.check points

namespace Shape

def checkLine (line : List Point) : Except Fault Unit :=
  if line.length < 2 then .error (.lineTooShort line.length) else checkEach Point.check line

def isClosed (ring : List Point) : Bool :=
  match ring.head?, ring.getLast? with
  | some p, some q => p == q
  | _, _ => true

def checkRing (ring : List Point) : Except Fault Unit :=
  if ring.length < 4 then .error (.ringTooShort ring.length)
  else if !isClosed ring then .error .ringOpen
  else checkEach Point.check ring

def checkPolygon (rings : List (List Point)) : Except Fault Unit :=
  if rings.isEmpty then .error .noRings else checkEach checkRing rings

mutual

def check : Shape → Except Fault Unit
  | .point p => p.check
  | .multiPoint points =>
    if points.isEmpty then .error .noPoints else checkEach Point.check points
  | .lineString line => checkLine line
  | .multiLineString lines =>
    if lines.isEmpty then .error .noLines else checkEach checkLine lines
  | .polygon rings => checkPolygon rings
  | .multiPolygon polygons =>
    if polygons.isEmpty then .error .noPolygons else checkEach checkPolygon polygons
  | .envelope corners =>
    if corners.length ≠ 2 then .error (.corners corners.length)
    else checkEach Point.check corners
  | .circle center radius => do
    center.check
    discard (checkDistance radius)
  | .collection shapes =>
    if shapes.isEmpty then .error .noShapes else checkShapes shapes

def checkShapes : List Shape → Except Fault Unit
  | [] => .ok ()
  | s :: rest => do
    s.check
    checkShapes rest

end

end Shape

end SearchQuery.Geo
