import SearchQuery.Query.Basic

/-!
# The JSON form of a query

A query is written as an object without a tag: its kind follows from the keys that are there.
Members that are not set are left out, an empty field among them.
-/

set_option autoImplicit false
namespace SearchQuery

abbrev Members := List (String × Json)

def optionalMember {α : Type} (key : String) (write : α → Json) : Option α → Members
  | none => []
  | some x => [(key, write x)]

def fieldMember (field : String) : Members :=
  if field.isEmpty then [] else [("field", .string field)]

def boostMember : Option Float → Members := optionalMember "boost" Json.ofFloat

def stringsJson (texts : List String) : Json := .array (texts.map .string)

def fuzzinessMember : Option Fuzziness → Members := optionalMember "fuzziness" Fuzziness.toJson

def Bounds.members {α : Type} (write : α → Json) (lower upper : String) (b : Bounds α) : Members :=
  optionalMember lower write b.min ++ optionalMember upper write b.max ++
    optionalMember ("inclusive_" ++ lower) .boolean b.inclusiveMin ++
    optionalMember ("inclusive_" ++ upper) .boolean b.inclusiveMax

def Criterion.members (field boost : Members) : Criterion → Members
  | .term t => ("term", .string t) :: field ++ boost
  | .fuzzy t length fuzziness =>
    ("term", .string t) :: optionalMember "prefix_length" Json.ofUInt32 length ++
      fuzzinessMember fuzziness ++ field ++ boost
  | .stem t => ("prefix", .string t) :: field ++ boost
  | .regexp p => ("regexp", .string p) :: field ++ boost
  | .wildcard p => ("wildcard", .string p) :: field ++ boost
  | .flag b => ("bool", .boolean b) :: field ++ boost
  | .text t analyzer length fuzziness operator =>
    ("match", .string t) :: field ++ optionalMember "analyzer" .string analyzer ++ boost ++
      optionalMember "prefix_length" Json.ofUInt32 length ++ fuzzinessMember fuzziness ++
      optionalMember "operator" (fun o => .string o.name) operator
  | .textPhrase t analyzer fuzziness =>
    ("match_phrase", .string t) :: field ++ optionalMember "analyzer" .string analyzer ++ boost ++
      fuzzinessMember fuzziness
  | .phrase terms fuzziness =>
    ("terms", stringsJson terms) :: field ++ boost ++ fuzzinessMember fuzziness
  | .multiPhrase terms fuzziness =>
    ("terms", .array (terms.map stringsJson)) :: field ++ boost ++ fuzzinessMember fuzziness
  | .numericRange b => b.members Json.ofFloat "min" "max" ++ field ++ boost
  | .termRange b => b.members .string "min" "max" ++ field ++ boost
  | .dateRange b parser =>
    b.members .string "start" "end" ++ optionalMember "datetime_parser" .string parser ++ field ++
      boost
  | .geoBox topLeft bottomRight =>
    ("top_left", topLeft.toJson) :: ("bottom_right", bottomRight.toJson) :: field ++ boost
  | .geoDistance center distance =>
    ("location", center.toJson) :: ("distance", .string distance) :: field ++ boost
  | .geoPolygon points => ("polygon_points", Geo.Shape.pointsJson points) :: field ++ boost
  | .geoShape shape relation =>
    ("geometry", .object [("shape", shape.toJson), ("relation", .string relation.name)]) ::
      field ++ boost
  | .network block => ("cidr", .string block) :: field ++ boost

namespace Query

mutual

def toJson : Query → Json
  | .onField c field boost => .object (c.members (fieldMember field) (boostMember boost))
  | .documents ids boost => .object (("ids", stringsJson ids) :: boostMember boost)
  | .everything boost => .object (("match_all", .object []) :: boostMember boost)
  | .nothing boost => .object (("match_none", .object []) :: boostMember boost)
  | .queryString text boost => .object (("query", .string text) :: boostMember boost)
  | .conjunction cs boost => .object (("conjuncts", .array (toJsons cs)) :: boostMember boost)
  | .disjunction ds min boost =>
    .object (("disjuncts", .array (toJsons ds)) ::
      optionalMember "min" Json.ofUInt32 min ++ boostMember boost)
  | .boolean must should mustNot boost =>
    .object (slotMember "must" must ++ slotMember "should" should ++
      slotMember "must_not" mustNot ++ boostMember boost)

def toJsons : List Query → List Json
  | [] => []
  | q :: rest => q.toJson :: toJsons rest

def slotMember (key : String) : Option Query → Members
  | none => []
  | some q => [(key, q.toJson)]

end

def write (q : Query) : String := q.toJson.write

end Query

end SearchQuery
