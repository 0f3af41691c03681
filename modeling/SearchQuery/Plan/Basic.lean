import SearchQuery.Calendar.Instant
import SearchQuery.Network.Block
import SearchQuery.Plan.Options
import SearchQuery.Query.Basic

/-!
# Search plans

A plan is what a query asks of one index: terms that are in its dictionary, instants instead of
dates, and conditions that can be met.  Every node carries a boost and the options of the search.
-/

set_option autoImplicit false
namespace SearchQuery

/-- A range whose ends are known to belong to it or not. -/
structure Interval (α : Type) where
  min : Option α
  max : Option α
  includesMin : Bool
  includesMax : Bool

def Bounds.interval {α : Type} (b : Bounds α) : Interval α :=
  ⟨b.min, b.max, b.includesMin, b.includesMax⟩

/-- What a plan asks of a document by itself.  In a phrase an empty slot stands for any term. -/
inductive Condition where
  | term (field term : String)
  | anyTerm (field : String) (terms : List String)
  | phrase (field : String) (slots : List (List String))
  | numericRange (field : String) (interval : Interval Float)
  | dateRange (field : String) (interval : Interval Calendar.Instant)
  | documents (ids : List String)
  | scored (documents : List (String × Float))
  | geoBox (field : String) (topLeft bottomRight : Geo.Point)
  | geoDistance (field : String) (center : Geo.Point) (meters : Float)
  | geoPolygon (field : String) (points : List Geo.Point)
  | geoShape (field : String) (shape : Geo.Shape) (relation : Geo.Relation)
  | network (field : String) (block : Network.Block)
  | everything
  | nothing

inductive Plan where
  | leaf (condition : Condition) (boost : Float) (options : Options)
  | conjunction (children : List Plan) (boost : Float) (options : Options)
  | disjunction (children : List Plan) (min : Nat) (boost : Float) (options : Options)
  | boolean (must should mustNot : Option Plan) (boost : Float) (options : Options)

namespace Plan

def boost : Plan → Float
  | leaf _ b _ => b
  | conjunction _ b _ => b
  | disjunction _ _ b _ => b
  | boolean _ _ _ b _ => b

def options : Plan → Options
  | leaf _ _ o => o
  | conjunction _ _ o => o
  | disjunction _ _ _ o => o
  | boolean _ _ _ _ o => o

def setBoost (b : Float) : Plan → Plan
  | leaf c _ o => leaf c b o
  | conjunction cs _ o => conjunction cs b o
  | disjunction ds m _ o => disjunction ds m b o
  | boolean must should mustNot _ o => boolean must should mustNot b o

/-- A condition with the boost of a query, if that has one. -/
def ofCondition (c : Condition) (boost : Option Float) (options : Options) : Plan :=
  leaf c (boost.getD Query.defaultBoost) options

def nothing (options : Options) : Plan := ofCondition .nothing none options

/-- Any of a list of terms; without terms nothing matches. -/
def anyTerm (field : String) (terms : List String) (boost : Option Float) (options : Options) :
    Plan :=
  if terms.isEmpty then nothing options else ofCondition (.anyTerm field terms) boost options

/-- Whether the plan matches nothing, whatever the index holds. -/
def isNothing : Plan → Bool
  | leaf .nothing _ _ => true
  | _ => false

mutual

def size : Plan → Nat
  | leaf _ _ _ => 1
  | conjunction cs _ _ => 1 + sizes cs
  | disjunction ds _ _ _ => 1 + sizes ds
  | boolean must should mustNot _ _ => 1 + (slotSize must + slotSize should + slotSize mustNot)

def sizes : List Plan → Nat
  | [] => 0
  | p :: rest => p.size + sizes rest

def slotSize : Option Plan → Nat
  | none => 0
  | some p => p.size

end

end Plan

end SearchQuery
