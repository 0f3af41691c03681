import SearchQuery.Json.Reader
import SearchQuery.Query.Wire

/-!
# Decoding queries

The kind of a query follows from the keys of its object by an ordered list of rules,
`Kind.ofMembers`; the first rule that holds decides, and a value that does not fit the kind is never
tried as another.  The one exception is a list of terms, which is a phrase if its items are texts
and otherwise a phrase with alternatives.
-/

set_option autoImplicit false
namespace SearchQuery

def anyEnd (isType : Json → Bool) (members : Members) : Bool :=
  ["min", "max"].any fun key => (Json.lookup key members).any isType

/-- The kind that the keys of an object select.  A key counts as present with any value, null
included.  A list of terms is reported as a phrase. -/
def Kind.ofMembers (members : Members) : Option Kind :=
  let has := Json.hasKey members
  if has "fuzziness" && !has "match" && !has "match_phrase" && !has "terms" then some .fuzzy
  else if has "match" then some .match_
  else if has "match_phrase" then some .matchPhrase
  else if has "terms" then some .phrase
  else if has "term" then some .term
  else if has "must" || has "should" || has "must_not" then some .boolean
  else if has "conjuncts" then some .conjunction
  else if has "disjuncts" then some .disjunction
  else if has "query" then some .queryString
  else if anyEnd Json.isNumber members then some .numericRange
  else if anyEnd Json.isString members then some .termRange
  else if has "start" || has "end" then some .dateRange
  else if has "prefix" then some .stem
  else if has "regexp" then some .regexp
  else if has "wildcard" then some .wildcard
  else if has "match_all" then some .everything
  else if has "match_none" then some .nothing
  else if has "ids" then some .documents
  else if has "bool" then some .flag
  else if has "top_left" && has "bottom_right" then some .geoBox
  else if has "distance" then some .geoDistance
  else if has "polygon_points" then some .geoPolygon
  else if has "geometry" then some .geoShape
  else if has "cidr" then some .network
  else none

mutual

/-- Why a JSON value is not a query. -/
inductive DecodeError where
  | notAnObject (found : Json.Found)
  | unknownKind (keys : List String)
  | shape (kind : Kind) (mismatch : Json.Mismatch Refusal)

/-- The reasons for which a query refuses a value of the right type. -/
inductive Refusal where
  | fuzziness (word : String)
  | clauseCount (x : Float)
  | point (text : String)
  | child (error : DecodeError)

end

def Json.Found.typeName : Json.Found → String
  | .null => "null"
  | .boolean _ => "a boolean"
  | .integer _ => "a number"
  | .real _ => "a number"
  | .string _ => "a string"
  | .sequence => "an array"
  | .map => "an object"

def describeKeys (keys : List String) : String :=
  if keys.isEmpty then " (empty object)" else " (keys: " ++ ", ".intercalate keys ++ ")"

mutual

def DecodeError.message : DecodeError → String
  | .notAnObject found => "query must be a JSON object, got " ++ found.typeName
  | .unknownKind keys => "unknown query type" ++ describeKeys keys
  | .shape kind mismatch => s!"invalid {kind.name} query: {mismatchMessage mismatch}"

def Refusal.message : Refusal → String
  | .fuzziness word => s!"invalid fuzziness '{word}', expected a number or \"auto\""
  | .clauseCount x =>
    s!"min must be a whole non-negative number, got {Decimal.plainText x}"
  | .point text => s!"invalid geo point '{text}', expected \"lat,lon\""
  | .child e => e.message

def mismatchMessage : Json.Mismatch Refusal → String
  | .refused r => r.message
  | .invalidType found expected => (Json.Mismatch.invalidType found expected).message Empty.elim
  | .invalidValue found expected => (Json.Mismatch.invalidValue found expected).message Empty.elim
  | .invalidLength n expected => (Json.Mismatch.invalidLength n expected).message Empty.elim
  | .missingField name => (Json.Mismatch.missingField name).message Empty.elim
  | .duplicateField name => (Json.Mismatch.duplicateField name).message Empty.elim
  | .unknownVariant name known => (Json.Mismatch.unknownVariant name known).message Empty.elim
  | .noAlternative type => (Json.Mismatch.noAlternative type).message Empty.elim

end

abbrev QueryReader (α : Type) := Json.Reader Refusal α

abbrev QueryRecord (α : Type) := Json.Record Refusal α

namespace QueryRecord
open Json (Record text flag real natural32 listOf choice)

def readFuzziness : QueryReader Fuzziness := Fuzziness.read .fuzziness

def readPoint : QueryReader Geo.Point := Geo.Point.read .point

def field : QueryRecord String := Record.defaulted "field" text ""

def boost : QueryRecord (Option Float) := Record.optional "boost" real

def fuzziness : QueryRecord (Option Fuzziness) := Record.optional "fuzziness" readFuzziness

def prefixLength : QueryRecord (Option UInt32) := Record.optional "prefix_length" natural32

def analyzer : QueryRecord (Option String) := Record.optional "analyzer" text

def bounds {α : Type} (read : QueryReader α) (lower upper : String) : QueryRecord (Bounds α) :=
  Bounds.mk <$> Record.optional lower read <*> Record.optional upper read <*>
    Record.optional ("inclusive_" ++ lower) flag <*> Record.optional ("inclusive_" ++ upper) flag

def onField (criterion : QueryRecord Criterion) : QueryRecord Query :=
  Query.onField <$> criterion <*> field <*> boost

def geometry : QueryRecord Criterion :=
  Criterion.geoShape <$> Record.required "shape" Geo.Shape.read <*>
    Record.defaulted "relation" (choice Geo.Relation.named) .intersects

def readGeometry : QueryReader Criterion :=
  geometry.read "struct GeometryFilter" "fewer elements in array"

def term : QueryRecord Query := onField (.term <$> Record.required "term" text)

def fuzzy : QueryRecord Query :=
  onField (.fuzzy <$> Record.required "term" text <*> prefixLength <*> fuzziness)

def stem : QueryRecord Query := onField (.stem <$> Record.required "prefix" text)

def regexp : QueryRecord Query := onField (.regexp <$> Record.required "regexp" text)

def wildcard : QueryRecord Query := onField (.wildcard <$> Record.required "wildcard" text)

def boolean : QueryRecord Query := onField (.flag <$> Record.required "bool" flag)

def matching : QueryRecord Query :=
  onField (.text <$> Record.required "match" text <*> analyzer <*> prefixLength <*> fuzziness <*>
    Record.optional "operator" (choice Operator.named))

def matchPhrase : QueryRecord Query :=
  onField (.textPhrase <$> Record.required "match_phrase" text <*> analyzer <*> fuzziness)

def phrase : QueryRecord Query :=
  onField (.phrase <$> Record.required "terms" (listOf text) <*> fuzziness)

def multiPhrase : QueryRecord Query :=
  onField (.multiPhrase <$> Record.required "terms" (listOf (listOf text)) <*> fuzziness)

def numericRange : QueryRecord Query := onField (.numericRange <$> bounds real "min" "max")

def termRange : QueryRecord Query := onField (.termRange <$> bounds text "min" "max")

def dateRange : QueryRecord Query :=
  onField (.dateRange <$> bounds text "start" "end" <*> Record.optional "datetime_parser" text)

def geoBox : QueryRecord Query :=
  onField (.geoBox <$> Record.required "top_left" readPoint <*>
    Record.required "bottom_right" readPoint)

def geoDistance : QueryRecord Query :=
  onField (.geoDistance <$> Record.required "location" readPoint <*>
    Record.required "distance" text)

def geoPolygon : QueryRecord Query :=
  onField (.geoPolygon <$> Record.required "polygon_points" (listOf readPoint))

def geoShape : QueryRecord Query := onField (Record.required "geometry" readGeometry)

def network : QueryRecord Query := onField (.network <$> Record.required "cidr" text)

def marker (key : String) : QueryRecord Unit := Record.defaulted key (fun _ => .ok ()) ()

def everything : QueryRecord Query := (fun () b => .everything b) <$> marker "match_all" <*> boost

def nothing : QueryRecord Query := (fun () b => .nothing b) <$> marker "match_none" <*> boost

def documents : QueryRecord Query :=
  .documents <$> Record.required "ids" (listOf text) <*> boost

def queryString : QueryRecord Query := .queryString <$> Record.required "query" text <*> boost

/-- What the value of a member decodes to: as one query, and item by item. -/
structure Children where
  whole : Except DecodeError Query
  items : List (Except DecodeError Query)

def child (r : Except DecodeError Query) : Except (Json.Mismatch Refusal) Query :=
  match r with
  | .ok q => .ok q
  | .error e => .error (.refused (.child e))

def allChildren : List (Except DecodeError Query) → Except (Json.Mismatch Refusal) (List Query)
  | [] => .ok []
  | r :: rest => do
    let q ← child r
    let qs ← allChildren rest
    return q :: qs

def noChildren : Children := ⟨.error (.unknownKind []), []⟩

def slot (children : List (String × Children)) (key : String) : QueryRecord (Option Query) :=
  Record.optional key fun _ => child ((children.lookup key).getD noChildren).whole

def clauses (children : List (String × Children)) (key : String) : QueryRecord (List Query) :=
  Record.required key fun
    | .array _ => allChildren ((children.lookup key).getD noChildren).items
    | v => .error (.invalidType v.found "a sequence")

def clauseCount : QueryReader UInt32
  | .number (.integer n h) =>
    if 0 ≤ n ∧ n < 0x100000000 then .ok (UInt32.ofNat n.toNat)
    else .error (.refused (.clauseCount (Json.Number.integer n h).toFloat))
  | .number (.real x) =>
    if decide (0.0 ≤ x) && decide (x ≤ 4294967295.0) && x.toUInt32.toFloat == x then
      .ok x.toUInt32
    else .error (.refused (.clauseCount x))
  | v => .error (.invalidType v.found "f64")

def conjunction (children : List (String × Children)) : QueryRecord Query :=
  .conjunction <$> clauses children "conjuncts" <*> boost

def disjunction (children : List (String × Children)) : QueryRecord Query :=
  .disjunction <$> clauses children "disjuncts" <*> Record.optional "min" clauseCount <*> boost

def booleanQuery (children : List (String × Children)) : QueryRecord Query :=
  .boolean <$> slot children "must" <*> slot children "should" <*> slot children "must_not" <*>
    boost

def ofKind (children : List (String × Children)) : Kind → QueryRecord Query
  | .term => term
  | .match_ => matching
  | .matchPhrase => matchPhrase
  | .fuzzy => fuzzy
  | .phrase => phrase
  | .multiPhrase => multiPhrase
  | .boolean => booleanQuery children
  | .conjunction => conjunction children
  | .disjunction => disjunction children
  | .queryString => queryString
  | .numericRange => numericRange
  | .termRange => termRange
  | .dateRange => dateRange
  | .stem => stem
  | .regexp => regexp
  | .wildcard => wildcard
  | .everything => everything
  | .nothing => nothing
  | .documents => documents
  | .flag => boolean
  | .geoBox => geoBox
  | .geoDistance => geoDistance
  | .geoPolygon => geoPolygon
  | .geoShape => geoShape
  | .network => network

end QueryRecord

namespace Query
open QueryRecord (Children)

def decodeKind (kind : Kind) (members : Members) (children : List (String × Children)) :
    Except DecodeError Query :=
  match (QueryRecord.ofKind children kind).readMembers members with
  | .ok q => .ok q
  | .error e => .error (.shape kind e)

def decodeMembers (members : Members) (children : List (String × Children)) :
    Except DecodeError Query :=
  match Kind.ofMembers members with
  | none => .error (.unknownKind ((members.map (·.1)).mergeSort fun a b => decide (a ≤ b)))
  | some .phrase =>
    match decodeKind .phrase members children with
    | .ok q => .ok q
    | .error _ => decodeKind .multiPhrase members children
  | some kind => decodeKind kind members children

mutual

/-- The query of a JSON value.  The values of the members are decoded first, whether or not the kind
of the query makes use of them. -/
def decode : Json → Except DecodeError Query
  | .object members => decodeMembers members (decodeChildren members)
  | v => .error (.notAnObject v.found)

def decodeChildren : Members → List (String × Children)
  | [] => []
  | (key, v) :: rest => (key, ⟨decode v, decodeItems v⟩) :: decodeChildren rest

def decodeItems : Json → List (Except DecodeError Query)
  | .array items => decodeEach items
  | _ => []

def decodeEach : List Json → List (Except DecodeError Query)
  | [] => []
  | v :: rest => decode v :: decodeEach rest

end

/-- Why a text is not a query. -/
inductive TextError where
  | malformed (error : Json.SyntaxError)
  | undecodable (error : DecodeError)

def TextError.message : TextError → String
  | .malformed e => "malformed query: " ++ e.message
  | .undecodable e => e.message

def read (bytes : List UInt8) : Except TextError Query :=
  match Json.read bytes with
  | .error e => .error (.malformed e)
  | .ok v => (decode v).mapError .undecodable

end Query

end SearchQuery
