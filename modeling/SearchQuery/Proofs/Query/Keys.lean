import SearchQuery.Proofs.Json.NamedMembers
import SearchQuery.Proofs.Query.Represented
import SearchQuery.Proofs.Query.Selection

/-!
# Keys of other kinds

Each kind of query names the keys that it is written with (`Kind.keys`).  Once the kind is selected,
members under all other keys make no difference, whatever they hold
(`Query.decode_of_foreign_members`).
-/

set_option autoImplicit false
namespace SearchQuery

/-- The keys that a query of the kind is written with. -/
def Kind.keys : Kind → List String
  | term => ["term", "field", "boost"]
  | match_ =>
    ["match", "analyzer", "prefix_length", "fuzziness", "operator", "field", "boost"]
  | matchPhrase => ["match_phrase", "analyzer", "fuzziness", "field", "boost"]
  | fuzzy => ["term", "prefix_length", "fuzziness", "field", "boost"]
  | phrase => ["terms", "fuzziness", "field", "boost"]
  | multiPhrase => ["terms", "fuzziness", "field", "boost"]
  | boolean => ["must", "should", "must_not", "boost"]
  | conjunction => ["conjuncts", "boost"]
  | disjunction => ["disjuncts", "min", "boost"]
  | queryString => ["query", "boost"]
  | numericRange => ["min", "max", "inclusive_min", "inclusive_max", "field", "boost"]
  | termRange => ["min", "max", "inclusive_min", "inclusive_max", "field", "boost"]
  | dateRange =>
    ["start", "end", "inclusive_start", "inclusive_end", "datetime_parser", "field", "boost"]
  | stem => ["prefix", "field", "boost"]
  | regexp => ["regexp", "field", "boost"]
  | wildcard => ["wildcard", "field", "boost"]
  | everything => ["match_all", "boost"]
  | nothing => ["match_none", "boost"]
  | documents => ["ids", "boost"]
  | flag => ["bool", "field", "boost"]
  | geoBox => ["top_left", "bottom_right", "field", "boost"]
  | geoDistance => ["location", "distance", "field", "boost"]
  | geoPolygon => ["polygon_points", "field", "boost"]
  | geoShape => ["geometry", "field", "boost"]
  | network => ["cidr", "field", "boost"]

namespace QueryRecord
open Json (Record)
variable {children children' : List (String × Children)}

theorem keys_ofKind (kind : Kind) : (ofKind children kind).checks.map (·.1) = kind.keys := by
  cases kind <;> rfl

theorem isLocal_ofKind (kind : Kind) : (ofKind children kind).IsLocal :=
  ofKind_combine Record.isLocal_required Record.isLocal_defaulted Record.isLocal_map
    Record.isLocal_seq kind

/-- Of the children only those under the keys of the kind are taken up. -/
theorem ofKind_congr {kind : Kind}
    (same : ∀ key ∈ kind.keys, children.lookup key = children'.lookup key) :
    ofKind children kind = ofKind children' kind := by
  cases kind with
  | conjunction =>
    have conjuncts := same "conjuncts" (by simp [Kind.keys])
    simp only [ofKind, conjunction, clauses, conjuncts]
  | disjunction =>
    have disjuncts := same "disjuncts" (by simp [Kind.keys])
    simp only [ofKind, disjunction, clauses, disjuncts]
  | boolean =>
    have must := same "must" (by simp [Kind.keys])
    have should := same "should" (by simp [Kind.keys])
    have mustNot := same "must_not" (by simp [Kind.keys])
    simp only [ofKind, booleanQuery, slot, must, should, mustNot]
  | _ => rfl

end QueryRecord

namespace Query
open QueryRecord (ofKind)

theorem readAs_congr {kind : Kind} {members members' : Members} (sorted : Json.Sorted members)
    (sorted' : Json.Sorted members')
    (same : ∀ key ∈ kind.keys, Json.lookup key members = Json.lookup key members') :
    readAs kind members = readAs kind members' := by
  have children : ofKind (decodeChildren members) kind = ofKind (decodeChildren members') kind := by
    refine QueryRecord.ofKind_congr fun key named => ?_
    rw [lookup_decodeChildren, lookup_decodeChildren, same key named]
  rw [readAs, readAs, children]
  refine Json.Record.readMembers_congr (QueryRecord.isLocal_ofKind kind) sorted sorted' ?_
  rw [QueryRecord.keys_ofKind]
  exact same

/-- An object and an extension of it that select the same kind are decoded to the same query or
refused with the same report, unless a member was added under a key of that kind. -/
theorem decode_of_foreign_members {members extended : Members} {kind : Kind}
    (sorted : Json.Sorted members) (sorted' : Json.Sorted extended)
    (kept : ∀ key v, Json.lookup key members = some v → Json.lookup key extended = some v)
    (selected : Kind.ofMembers members = some kind)
    (selected' : Kind.ofMembers extended = some kind)
    (foreign : ∀ key ∈ kind.keys, Json.lookup key members = none →
      Json.lookup key extended = none) :
    decode (.object extended) = decode (.object members) ∧
      ((∃ q, decode (.object members) = .ok q) ∨
        ∃ k mismatch, decode (.object members) = .error (.shape k mismatch)) := by
  have same : ∀ key ∈ kind.keys, Json.lookup key extended = Json.lookup key members := by
    intro key named
    cases under : Json.lookup key members with
    | none => exact foreign key named under
    | some v => exact kept key v under
  have read (k : Kind) (keys : k.keys = kind.keys) : readAs k extended = readAs k members :=
    readAs_congr sorted' sorted (keys ▸ same)
  rw [ofMembers_eq_iff] at selected selected'
  by_cases list : kind = .phrase
  · subst list
    rw [decode_of_terms selected, decode_of_terms selected', read .phrase rfl,
      read .multiPhrase rfl]
    refine ⟨rfl, ?_⟩
    cases readAs .phrase members with
    | ok q => exact .inl ⟨q, rfl⟩
    | error _ =>
      cases readAs .multiPhrase members with
      | ok q => exact .inl ⟨q, rfl⟩
      | error e => exact .inr ⟨.multiPhrase, e, rfl⟩
  · rw [decode_of_single selected list, decode_of_single selected' list, read kind rfl]
    refine ⟨rfl, ?_⟩
    cases readAs kind members with
    | ok q => exact .inl ⟨q, rfl⟩
    | error e => exact .inr ⟨kind, e, rfl⟩

/-- A conjunction with a child that is no query is refused for that child, whatever stands under the
keys of other kinds. -/
theorem decode_of_foreign_members_clauses :
    let items : Json := .array [.object [("term", .string "a")], .null]
    let members : Members := [("conjuncts", items)]
    let extended : Members := [("cidr", .null), ("conjuncts", items), ("disjuncts", .string "x"),
      ("min", .boolean true), ("term range", items)]
    Json.Sorted extended ∧ Kind.ofMembers members = some .conjunction ∧
      Kind.ofMembers extended = some .conjunction ∧
      decode (.object extended) = decode (.object members) ∧
      decode (.object members) =
        .error (.shape .conjunction (.refused (.child (.notAnObject .null)))) := by
  intro items members extended
  have sorted : Json.Sorted members := List.pairwise_singleton _ _
  have ascending : (extended.map (·.1)).Pairwise (· < ·) := by decide
  have sorted' : Json.Sorted extended := List.pairwise_map.1 ascending
  have kept : ∀ key v, Json.lookup key members = some v → Json.lookup key extended = some v := by
    intro key v under
    simp only [members, Json.lookup] at under
    split at under
    · rename_i same
      subst same
      cases under
      rfl
    · cases under
  have selected : Kind.ofMembers members = some .conjunction := rfl
  have selected' : Kind.ofMembers extended = some .conjunction := rfl
  have foreign : ∀ key ∈ Kind.conjunction.keys, Json.lookup key members = none →
      Json.lookup key extended = none := by
    intro key named absent
    rcases List.mem_cons.1 named with rfl | named
    · cases absent
    · cases List.mem_singleton.1 named
      rfl
  have same := decode_of_foreign_members sorted sorted' kept selected selected' foreign
  exact ⟨sorted', selected, selected', same.1, rfl⟩

end Query

end SearchQuery
