import SearchQuery.Plan.Basic
import SearchQuery.Table

/-!
# Pre-search data

What was found before the search proper and takes part in it: the candidates of a search for nearest
neighbours, kept under a reserved key.
-/

set_option autoImplicit false
namespace SearchQuery

structure Hit where
  index : String := ""
  id : String
  score : Float := 0.0
  sort : List Json := []
  fields : List (String × Json) := []

namespace Hit
open Json (Record Reader)

def readValue : Reader Empty Json := fun v => .ok v

def readFields : Reader Empty (List (String × Json))
  | .object members => .ok members
  | v => .error (.invalidType v.found "a map")

def record : Record Empty Hit :=
  Hit.mk <$> Record.defaulted "index" Json.text "" <*> Record.required "id" Json.text <*>
    Record.defaulted "score" Json.real 0.0 <*>
    Record.defaulted "sort" (Json.listOf readValue) [] <*> Record.defaulted "fields" readFields []

def read : Reader Empty Hit := record.read "struct DocumentMatch" "fewer elements in array"

def toJson (h : Hit) : Json :=
  .object ((if h.index.isEmpty then [] else [("index", .string h.index)]) ++
    ("id", .string h.id) :: ("score", Json.ofFloat h.score) ::
    (if h.sort.isEmpty then [] else [("sort", .array h.sort)]) ++
    if h.fields.isEmpty then [] else [("fields", .object h.fields)])

/-- The place of a score in the total order of numbers, where negative zero comes before zero and
what is not a number comes last on its side. -/
def rank (h : Hit) : Int :=
  let bits : Int := h.score.toBits.toNat
  if bits < 0x8000000000000000 then bits else 0x7fffffffffffffff - bits

end Hit

structure PreSearch where
  entries : Table (List Hit) := []

inductive PreSearchError where
  | malformed (error : Json.TextError)
  | payload (key : String) (mismatch : Json.Mismatch Empty)

def PreSearchError.message : PreSearchError → String
  | malformed e => "malformed pre-search data: " ++ e.message
  | payload key m => s!"invalid value for pre-search key '{key}': {m.message Empty.elim}"

namespace PreSearch

def neighbourKey : String := "_knn_pre_search_data_key"

def insert (key : String) (hits : List Hit) (data : PreSearch) : PreSearch :=
  ⟨data.entries.put key hits⟩

def get? (data : PreSearch) (key : String) : Option (List Hit) := data.entries.lookup key

def size (data : PreSearch) : Nat := data.entries.length

/-- The candidates for nearest neighbours; without an entry there are none. -/
def neighbours (data : PreSearch) : List Hit := (data.get? neighbourKey).getD []

def ranked (data : PreSearch) : List Hit :=
  data.neighbours.mergeSort fun a b => decide (b.rank ≤ a.rank)

def plan (data : PreSearch) (options : Options) : Option Plan :=
  if data.neighbours.isEmpty then none
  else
    let scored := data.neighbours.map fun h => (h.id, h.score)
    some (.ofCondition (.scored scored) none options)

open Json (Cursor)

def readMembers (bytes : List UInt8) : Except Json.TextError (List (String × Json)) :=
  let c := (Cursor.ofBytes bytes).skipSpace
  Cursor.complete <|
    if c.rest.head? = some 110 then (Cursor.untyped (c.value 1)).map fun (_, c) => ([], c)
    else c.readObject "a map" [] (fun key v members => Json.putMember key v.normalize members) []

def readHits : Json.Reader Empty (List Hit)
  | .null => .ok []
  | v => Json.listOf Hit.read v

/-- Reads pre-search data; keys other than the reserved one are passed over. -/
def read (bytes : List UInt8) : Except PreSearchError PreSearch := do
  let members ← (readMembers bytes).mapError .malformed
  match Json.lookup neighbourKey members with
  | none => return {}
  | some v =>
    let hits ← (readHits v).mapError (.payload neighbourKey)
    return insert neighbourKey hits {}

end PreSearch

end SearchQuery
