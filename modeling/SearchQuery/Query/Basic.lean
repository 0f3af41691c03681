import SearchQuery.Geo.Shape
import SearchQuery.Query.Fuzziness
import SearchQuery.Query.Kind

/-!
# Queries

A query is a tree.  Its leaves ask something of one field, of the identifiers of documents, or of
nothing at all; a query string is a leaf whose text denotes a tree of its own.  Conjunctions,
disjunctions and boolean queries combine others.  Every node may carry a boost, the weight of its
matches beside others.
-/

set_option autoImplicit false
namespace SearchQuery

/-- The two ends of a range, and whether they belong to it.  The lower end does unless told
otherwise, the upper end does not. -/
structure Bounds (α : Type) where
  min : Option α
  max : Option α
  inclusiveMin : Option Bool := none
  inclusiveMax : Option Bool := none
  deriving BEq

namespace Bounds
variable {α : Type}

def includesMin (b : Bounds α) : Bool := b.inclusiveMin.getD true

def includesMax (b : Bounds α) : Bool := b.inclusiveMax.getD false

end Bounds

inductive Operator where
  | or
  | and
  deriving DecidableEq

namespace Operator

def named : List (String × Operator) := [("or", or), ("and", and)]

def name : Operator → String
  | or => "or"
  | and => "and"

end Operator

inductive Criterion where
  | term (text : String)
  | fuzzy (text : String) (prefixLength : Option UInt32) (fuzziness : Option Fuzziness)
  | stem (text : String)
  | regexp (pattern : String)
  | wildcard (pattern : String)
  | flag (value : Bool)
  | text (text : String) (analyzer : Option String) (prefixLength : Option UInt32)
      (fuzziness : Option Fuzziness) (operator : Option Operator)
  | textPhrase (text : String) (analyzer : Option String) (fuzziness : Option Fuzziness)
  | phrase (terms : List String) (fuzziness : Option Fuzziness)
  | multiPhrase (terms : List (List String)) (fuzziness : Option Fuzziness)
  | numericRange (bounds : Bounds Float)
  | termRange (bounds : Bounds String)
  | dateRange (bounds : Bounds String) (parser : Option String)
  | geoBox (topLeft bottomRight : Geo.Point)
  | geoDistance (center : Geo.Point) (distance : String)
  | geoPolygon (points : List Geo.Point)
  | geoShape (shape : Geo.Shape) (relation : Geo.Relation)
  | network (block : String)

inductive Query where
  | onField (criterion : Criterion) (field : String) (boost : Option Float)
  | documents (ids : List String) (boost : Option Float)
  | everything (boost : Option Float)
  | nothing (boost : Option Float)
  | queryString (text : String) (boost : Option Float)
  | conjunction (conjuncts : List Query) (boost : Option Float)
  | disjunction (disjuncts : List Query) (min : Option UInt32) (boost : Option Float)
  | boolean (must should mustNot : Option Query) (boost : Option Float)

def Criterion.kind : Criterion → Kind
  | .term .. => .term
  | .fuzzy .. => .fuzzy
  | .stem .. => .stem
  | .regexp .. => .regexp
  | .wildcard .. => .wildcard
  | .flag .. => .flag
  | .text .. => .match_
  | .textPhrase .. => .matchPhrase
  | .phrase .. => .phrase
  | .multiPhrase .. => .multiPhrase
  | .numericRange .. => .numericRange
  | .termRange .. => .termRange
  | .dateRange .. => .dateRange
  | .geoBox .. => .geoBox
  | .geoDistance .. => .geoDistance
  | .geoPolygon .. => .geoPolygon
  | .geoShape .. => .geoShape
  | .network .. => .network

namespace Query

def kind : Query → Kind
  | .onField c .. => c.kind
  | .documents .. => .documents
  | .everything .. => .everything
  | .nothing .. => .nothing
  | .queryString .. => .queryString
  | .conjunction .. => .conjunction
  | .disjunction .. => .disjunction
  | .boolean .. => .boolean

def boost? : Query → Option Float
  | .onField _ _ b => b
  | .documents _ b => b
  | .everything b => b
  | .nothing b => b
  | .queryString _ b => b
  | .conjunction _ b => b
  | .disjunction _ _ b => b
  | .boolean _ _ _ b => b

/-- The weight of a node without a boost. -/
def defaultBoost : Float := 1.0

def boost (q : Query) : Float := q.boost?.getD defaultBoost

def setBoost (b : Float) : Query → Query
  | .onField c f _ => .onField c f (some b)
  | .documents ids _ => .documents ids (some b)
  | .everything _ => .everything (some b)
  | .nothing _ => .nothing (some b)
  | .queryString t _ => .queryString t (some b)
  | .conjunction cs _ => .conjunction cs (some b)
  | .disjunction ds m _ => .disjunction ds m (some b)
  | .boolean must should mustNot _ => .boolean must should mustNot (some b)

/-- The field that a node is restricted to; an empty one stands for the default field. -/
def field? : Query → Option String
  | .onField _ f _ => some f
  | _ => none

def setField (field : String) : Query → Query
  | .onField c _ b => .onField c field b
  | q => q

def hasValidation : Query → Bool
  | .onField (.term _) .. => false
  | .onField (.stem _) .. => false
  | .onField (.flag _) .. => false
  | .onField .. => true
  | .documents .. => false
  | .everything .. => false
  | .nothing .. => false
  | _ => true

mutual

/-- Whether the tree holds a query string. -/
def hasQueryString : Query → Bool
  | .queryString .. => true
  | .conjunction cs _ => anyQueryString cs
  | .disjunction ds _ _ => anyQueryString ds
  | .boolean must should mustNot _ =>
    slotHasQueryString must || slotHasQueryString should || slotHasQueryString mustNot
  | _ => false

def anyQueryString : List Query → Bool
  | [] => false
  | q :: rest => q.hasQueryString || anyQueryString rest

def slotHasQueryString : Option Query → Bool
  | none => false
  | some q => q.hasQueryString

end

end Query

end SearchQuery
