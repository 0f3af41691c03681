import SearchQuery.Query.Basic

/-!
# Equality of queries

Two queries are equal when all their parts are, where numbers are compared as numbers: the two zeros
are equal, and what is not a number is equal to nothing.
-/

set_option autoImplicit false
namespace SearchQuery

namespace Geo.Shape

mutual

def same : Shape → Shape → Bool
  | .point p, .point q => p == q
  | .lineString a, .lineString b => a == b
  | .polygon a, .polygon b => a == b
  | .multiPoint a, .multiPoint b => a == b
  | .multiLineString a, .multiLineString b => a == b
  | .multiPolygon a, .multiPolygon b => a == b
  | .envelope a, .envelope b => a == b
  | .circle p r, .circle q s => p == q && r == s
  | .collection a, .collection b => sameShapes a b
  | _, _ => false

def sameShapes : List Shape → List Shape → Bool
  | [], [] => true
  | s :: ss, t :: ts => s.same t && sameShapes ss ts
  | _, _ => false

end

instance : BEq Shape := ⟨same⟩

end Geo.Shape

def Criterion.same : Criterion → Criterion → Bool
  | .term a, .term b => a == b
  | .fuzzy a p f, .fuzzy b q g => a == b && p == q && f == g
  | .stem a, .stem b => a == b
  | .regexp a, .regexp b => a == b
  | .wildcard a, .wildcard b => a == b
  | .flag a, .flag b => a == b
  | .text a x p f o, .text b y q g r => a == b && x == y && p == q && f == g && o == r
  | .textPhrase a x f, .textPhrase b y g => a == b && x == y && f == g
  | .phrase a f, .phrase b g => a == b && f == g
  | .multiPhrase a f, .multiPhrase b g => a == b && f == g
  | .numericRange a, .numericRange b => a == b
  | .termRange a, .termRange b => a == b
  | .dateRange a p, .dateRange b q => a == b && p == q
  | .geoBox p q, .geoBox r s => p == r && q == s
  | .geoDistance p d, .geoDistance q e => p == q && d == e
  | .geoPolygon a, .geoPolygon b => a == b
  | .geoShape a r, .geoShape b s => a == b && r == s
  | .network a, .network b => a == b
  | _, _ => false

instance : BEq Criterion := ⟨Criterion.same⟩

namespace Query

mutual

def same : Query → Query → Bool
  | .onField c f b, .onField d g e => c == d && f == g && b == e
  | .documents a b, .documents c d => a == c && b == d
  | .everything a, .everything b => a == b
  | .nothing a, .nothing b => a == b
  | .queryString s a, .queryString t b => s == t && a == b
  | .conjunction ps a, .conjunction qs b => sameEach ps qs && a == b
  | .disjunction ps m a, .disjunction qs n b => sameEach ps qs && m == n && a == b
  | .boolean p q r a, .boolean s t u b =>
    sameSlot p s && sameSlot q t && sameSlot r u && a == b
  | _, _ => false

def sameEach : List Query → List Query → Bool
  | [], [] => true
  | p :: ps, q :: qs => p.same q && sameEach ps qs
  | _, _ => false

def sameSlot : Option Query → Option Query → Bool
  | none, none => true
  | some p, some q => p.same q
  | _, _ => false

end

instance : BEq Query := ⟨same⟩

end Query

end SearchQuery
