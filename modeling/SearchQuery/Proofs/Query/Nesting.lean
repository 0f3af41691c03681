import SearchQuery.Proofs.Geo.Nesting
import SearchQuery.Proofs.Query.Clauses
import SearchQuery.Proofs.Query.Expansion
import SearchQuery.Proofs.Query.Represented

/-!
# How deep queries nest

The JSON form of a query may be deeper than the value that the query was decoded from: points and
markers are written one level deeper, and an expanded query string three levels.  Neither adds to
the other, so an expanded query is at most three levels deeper than the value.
-/

set_option autoImplicit false
namespace SearchQuery
open Json (Nests Record depthMembers depthItems)

section Members
variable {α : Type} {key : String} {write : α → Json}

theorem depth_optionalMember (flat : ∀ x, (write x).depth = 0) (x : Option α) :
    depthMembers (optionalMember key write x) = 0 := by
  cases x with
  | none => rfl
  | some x => rw [optionalMember, depthMembers, flat, depthMembers, Nat.max_self]

@[simp] theorem optionalMember_isFinite (h : ∀ x, (write x).IsFinite) (x : Option α) :
    Json.MembersFinite (optionalMember key write x) := by
  cases x with
  | none => trivial
  | some x => exact ⟨h x, trivial⟩

end Members

@[simp] theorem depth_boostMember (boost : Option Float) : depthMembers (boostMember boost) = 0 :=
  depth_optionalMember Json.depth_ofFloat boost

@[simp] theorem depth_fieldMember (field : String) : depthMembers (fieldMember field) = 0 := by
  rw [fieldMember]
  split <;> rfl

@[simp] theorem depth_fuzzinessMember (fuzziness : Option Fuzziness) :
    depthMembers (fuzzinessMember fuzziness) = 0 :=
  depth_optionalMember (fun f => by cases f <;> rfl) fuzziness

@[simp] theorem depth_textMember {key : String} (text : Option String) :
    depthMembers (optionalMember key .string text) = 0 :=
  depth_optionalMember Json.depth_string text

@[simp] theorem depth_flagMember {key : String} (flag : Option Bool) :
    depthMembers (optionalMember key .boolean flag) = 0 :=
  depth_optionalMember Json.depth_boolean flag

@[simp] theorem depth_countMember {key : String} (n : Option UInt32) :
    depthMembers (optionalMember key Json.ofUInt32 n) = 0 :=
  depth_optionalMember Json.depth_ofUInt32 n

@[simp] theorem depth_operatorMember (operator : Option Operator) :
    depthMembers (optionalMember "operator" (fun o => .string o.name) operator) = 0 :=
  depth_optionalMember (fun o => Json.depth_string o.name) operator

theorem Bounds.depth_members {α : Type} {write : α → Json} (flat : ∀ x, (write x).depth = 0)
    (lower upper : String) (b : Bounds α) : depthMembers (b.members write lower upper) = 0 := by
  simp [Bounds.members, depth_optionalMember flat]

theorem depth_stringsJson (texts : List String) : (stringsJson texts).depth = 1 := by
  have flat : depthItems (texts.map .string) ≤ 0 := Json.depthItems_le_iff.2 fun v hv => by
    obtain ⟨s, -, rfl⟩ := List.mem_map.1 hv
    exact Nat.le_refl 0
  rw [stringsJson, Json.depth]
  omega

def Criterion.nesting : Criterion → Nat
  | .phrase _ _ => 1
  | .multiPhrase terms _ => (Json.array (terms.map stringsJson)).depth
  | .geoBox _ _ => 1
  | .geoDistance _ _ => 1
  | .geoPolygon points => (Geo.Shape.pointsJson points).depth
  | .geoShape shape _ => shape.toJson.depth + 1
  | _ => 0

theorem Criterion.depth_members (c : Criterion) (field : String) (boost : Option Float) :
    depthMembers (c.members (fieldMember field) (boostMember boost)) = c.nesting := by
  cases c with
  | numericRange b => simp [members, nesting, Bounds.depth_members Json.depth_ofFloat]
  | termRange b => simp [members, nesting, Bounds.depth_members Json.depth_string]
  | dateRange b parser => simp [members, nesting, Bounds.depth_members Json.depth_string]
  | _ => simp [members, nesting, depthMembers, depth_stringsJson, Json.depth]

namespace Query
open Grammar (IsClause)

section Depth

attribute [local simp] toJson Json.depth depthMembers

theorem depth_onField (c : Criterion) (field : String) (boost : Option Float) :
    (onField c field boost).toJson.depth = c.nesting + 1 := by
  rw [toJson, Json.depth, Criterion.depth_members]

theorem depth_conjunction (cs : List Query) (boost : Option Float) :
    (conjunction cs boost).toJson.depth = depthItems (toJsons cs) + 2 := by
  simp

theorem depth_disjunction (ds : List Query) (min : Option UInt32) (boost : Option Float) :
    (disjunction ds min boost).toJson.depth = depthItems (toJsons ds) + 2 := by
  simp

theorem depth_boolean (must should mustNot : Option Query) (boost : Option Float) :
    (boolean must should mustNot boost).toJson.depth =
      max (max (depthMembers (slotMember "must" must)) (depthMembers (slotMember "should" should)))
        (depthMembers (slotMember "must_not" mustNot)) + 1 := by
  simp

theorem depth_documents (ids : List String) (boost : Option Float) :
    (documents ids boost).toJson.depth = 2 := by
  simp [depth_stringsJson]

theorem depth_everything (boost : Option Float) : (everything boost).toJson.depth = 2 := by
  simp

theorem depth_nothing (boost : Option Float) : (nothing boost).toJson.depth = 2 := by
  simp

theorem depth_slotMember (key : String) (q : Query) :
    depthMembers (slotMember key (some q)) = q.toJson.depth := by
  rw [slotMember, depthMembers, depthMembers, Nat.max_zero]

theorem depth_setBoost (q : Query) (b : Float) : (q.setBoost b).toJson.depth = q.toJson.depth := by
  cases q with
  | onField c field boost => rw [setBoost, depth_onField, depth_onField]
  | documents ids boost => rw [setBoost, depth_documents, depth_documents]
  | everything boost => rw [setBoost, depth_everything, depth_everything]
  | nothing boost => rw [setBoost, depth_nothing, depth_nothing]
  | queryString text boost => simp [setBoost]
  | conjunction cs boost => rw [setBoost, depth_conjunction, depth_conjunction]
  | disjunction ds min boost => rw [setBoost, depth_disjunction, depth_disjunction]
  | boolean must should mustNot boost => rw [setBoost, depth_boolean, depth_boolean]

end Depth

theorem depth_of_isClause {q : Query} (h : IsClause q) : q.toJson.depth = 1 := by
  cases h <;> rw [depth_onField] <;> rfl

theorem depth_group {make : List Query → Query} {qs : List Query} {n : Nat} (key : String)
    (h : (make qs).toJson.depth ≤ n) :
    depthMembers (slotMember key (Grammar.group make qs)) ≤ n := by
  unfold Grammar.group
  split
  · exact Nat.zero_le n
  · rw [depth_slotMember]
    exact h

/-- The deepest that a query string denotes is a clause in a list in a slot. -/
theorem depth_of_parse {text : String} {q : Query} (h : parseQueryString text = .ok q) :
    q.toJson.depth ≤ 4 := by
  obtain ⟨clauses, parsed, rfl⟩ := Grammar.parseQueryString_eq_ok.1 h
  have members (occur : Grammar.Occur) :
      depthItems (toJsons (Grammar.clausesOf occur clauses)) ≤ 1 := by
    have each : ∀ q ∈ Grammar.clausesOf occur clauses, q.toJson.depth = 1 := fun q hq =>
      depth_of_isClause (Grammar.parseClauses_forall Grammar.parseClause_isClause parsed _
        (Grammar.mem_clausesOf.1 hq))
    generalize Grammar.clausesOf occur clauses = qs at each
    induction qs with
    | nil => exact Nat.zero_le 1
    | cons q rest ih =>
      obtain ⟨first, others⟩ := List.forall_mem_cons.1 each
      rw [toJsons, depthItems]
      exact Nat.max_le.2 ⟨Nat.le_of_eq first, ih others⟩
  unfold Grammar.assemble
  split
  · rw [depth_nothing]
    decide
  · rw [depth_boolean]
    refine Nat.succ_le_succ (Nat.max_le.2 ⟨Nat.max_le.2 ⟨depth_group _ ?_, depth_group _ ?_⟩,
      depth_group _ ?_⟩)
    · rw [depth_conjunction]
      exact Nat.add_le_add_right (members .must) 2
    · rw [depth_disjunction]
      exact Nat.add_le_add_right (members .should) 2
    · rw [depth_disjunction]
      exact Nat.add_le_add_right (members .mustNot) 2

mutual

/-- How deep a query is once its query strings are expanded, if they are as deep as they can be. -/
def reach : Query → Nat
  | .onField c _ _ => c.nesting + 1
  | .documents _ _ => 2
  | .everything _ => 2
  | .nothing _ => 2
  | .queryString _ _ => 4
  | .conjunction cs _ => reachIn cs + 2
  | .disjunction ds _ _ => reachIn ds + 2
  | .boolean must should mustNot _ =>
    max (max (reachSlot must) (reachSlot should)) (reachSlot mustNot) + 1

def reachIn : List Query → Nat
  | [] => 0
  | q :: rest => max q.reach (reachIn rest)

def reachSlot : Option Query → Nat
  | none => 0
  | some q => q.reach

end

theorem depth_of_denoted {text : String} {boost : Option Float} {e : Query}
    (h : denoted text boost = .ok e) : e.toJson.depth ≤ 4 := by
  unfold denoted at h
  split at h
  · cases h
  · rename_i q parsed
    cases h
    have depth := depth_of_parse parsed
    cases boost with
    | none => exact depth
    | some b => rwa [overrideBoost, depth_setBoost]

mutual

theorem replaceTexts_depth : ∀ q e : Query, q.replaceTexts denoted = .ok e →
    e.toJson.depth ≤ q.reach
  | .onField c field boost, e, h => by
    rw [replaceTexts] at h
    cases h
    exact Nat.le_of_eq (depth_onField c field boost)
  | .documents ids boost, e, h => by
    rw [replaceTexts] at h
    cases h
    exact Nat.le_of_eq (depth_documents ids boost)
  | .everything boost, e, h => by
    rw [replaceTexts] at h
    cases h
    exact Nat.le_of_eq (depth_everything boost)
  | .nothing boost, e, h => by
    rw [replaceTexts] at h
    cases h
    exact Nat.le_of_eq (depth_nothing boost)
  | .queryString text boost, e, h => by
    rw [replaceTexts] at h
    exact depth_of_denoted h
  | .conjunction cs boost, e, h => by
    obtain ⟨es, each, rfl⟩ := replaceTexts_conjunction.1 h
    rw [depth_conjunction, reach]
    exact Nat.add_le_add_right (replaceEach_depth .conjunct 0 cs es each) 2
  | .disjunction ds min boost, e, h => by
    obtain ⟨es, each, rfl⟩ := replaceTexts_disjunction.1 h
    rw [depth_disjunction, reach]
    exact Nat.add_le_add_right (replaceEach_depth .disjunct 0 ds es each) 2
  | .boolean must should mustNot boost, e, h => by
    obtain ⟨must', should', mustNot', hmust, hshould, hmustNot, rfl⟩ := replaceTexts_boolean.1 h
    have first := replaceSlot_depth .must "must" must must' hmust
    have second := replaceSlot_depth .should "should" should should' hshould
    have third := replaceSlot_depth .mustNot "must_not" mustNot mustNot' hmustNot
    rw [depth_boolean, reach]
    omega

theorem replaceEach_depth (step : Nat → Step) : ∀ (place : Nat) (qs es : List Query),
    replaceEach denoted step place qs = .ok es → depthItems (toJsons es) ≤ reachIn qs
  | place, [], es, h => by
    obtain rfl := replaceEach_nil.1 h
    exact Nat.le_refl 0
  | place, q :: rest, es, h => by
    obtain ⟨e, es, first, others, rfl⟩ := replaceEach_cons.1 h
    have first := replaceTexts_depth q e first
    have others := replaceEach_depth step (place + 1) rest es others
    rw [toJsons, depthItems, reachIn]
    omega

theorem replaceSlot_depth (step : Step) (key : String) : ∀ slot slot' : Option Query,
    replaceSlot denoted step slot = .ok slot' →
      depthMembers (slotMember key slot') ≤ reachSlot slot
  | none, slot', h => by
    obtain rfl := replaceSlot_none.1 h
    exact Nat.le_refl 0
  | some q, slot', h => by
    obtain ⟨e, first, rfl⟩ := replaceSlot_some.1 h
    rw [depth_slotMember, reachSlot]
    exact replaceTexts_depth q e first

end

end Query

namespace QueryRecord
variable {members : Members} {children : List (String × Children)}

theorem nests_text : Nests (Json.text : QueryReader String) .string 0 :=
  fun _ _ _ => Nat.zero_le _

/-- Only points are written deeper than they are read. -/
theorem nesting_le_of_build {c : Criterion} {field : String} {boost : Option Float}
    (built : (ofKind children c.kind).build members = .ok (.onField c field boost)) :
    c.nesting ≤ depthMembers members + 1 := by
  cases c with
  | multiPhrase terms fuzziness =>
    obtain ⟨c, f, b, hc, -, same⟩ := onField_build built
    obtain ⟨f1, fz, h1, -, rfl⟩ := Record.seq_build.1 hc
    obtain ⟨terms', hterms, rfl⟩ := Record.map_build.1 h1
    cases same
    exact Nat.le_succ_of_le (Json.required_nests nests_text.listOf.listOf hterms)
  | geoPolygon points =>
    obtain ⟨c, f, b, hc, -, same⟩ := onField_build built
    obtain ⟨points', hpoints, rfl⟩ := Record.map_build.1 hc
    cases same
    exact Json.required_nests (Geo.Point.nests_read Refusal.point).listOf hpoints
  | geoShape shape relation =>
    obtain ⟨c, f, b, hc, -, same⟩ := onField_build built
    cases same
    obtain ⟨v, hv, hread⟩ := Record.required_build.1 hc
    obtain ⟨inner, shallow, built⟩ := Record.members_of_read hread
    obtain ⟨shape', relation', hshape, same⟩ := geometry_build built
    cases same
    -- The shape is in an object of its own, both where it is read and where it is written.
    have shape := Json.required_nests Geo.Shape.nests_read hshape
    have outer := Json.depth_le_of_lookup hv
    rw [Criterion.nesting]
    omega
  | phrase | geoBox | geoDistance => exact Nat.le_add_left 1 _
  | _ => exact Nat.zero_le _

def Children.Within (n : Nat) (c : Children) : Prop :=
  (∀ q, c.whole = .ok q → q.reach ≤ n + 3) ∧ ∀ r ∈ c.items, ∀ q, r = .ok q → q.reach ≤ n + 2

theorem Children.Within.mono {n k : Nat} {c : Children} (h : c.Within n) (hk : n ≤ k) :
    c.Within k :=
  ⟨fun q hq => Nat.le_trans (h.1 q hq) (Nat.add_le_add_right hk 3),
    fun r hr q hq => Nat.le_trans (h.2 r hr q hq) (Nat.add_le_add_right hk 2)⟩

theorem allChildren_reach {n : Nat} {results : List (Except DecodeError Query)}
    (h : ∀ r ∈ results, ∀ q, r = .ok q → q.reach ≤ n) {qs : List Query}
    (all : allChildren results = .ok qs) : Query.reachIn qs ≤ n := by
  induction results generalizing qs with
  | nil =>
    cases all
    exact Nat.zero_le n
  | cons r rest ih =>
    obtain ⟨q, hq, all⟩ := bind_eq_ok.1 all
    obtain ⟨others, hothers, all⟩ := bind_eq_ok.1 all
    cases all
    obtain ⟨first, remaining⟩ := List.forall_mem_cons.1 h
    exact Nat.max_le.2 ⟨first q (Query.child_eq_ok.1 hq), ih remaining hothers⟩

theorem lookup_within {n : Nat} (h : ∀ e ∈ children, e.2.Within n) (key : String) :
    ((children.lookup key).getD noChildren).Within n := by
  cases hkey : children.lookup key with
  | none =>
    constructor
    · intro q hq
      cases hq
    · intro r hr
      cases hr
  | some c =>
    obtain ⟨before, behind, rfl, -⟩ := List.lookup_eq_some_iff.1 hkey
    exact h (key, c) (by simp)

theorem clauses_reach {n : Nat} (h : ∀ e ∈ children, e.2.Within n) {key : String}
    {qs : List Query} (built : (clauses children key).build members = .ok qs) :
    Query.reachIn qs ≤ n + 2 := by
  obtain ⟨v, -, hread⟩ := Record.required_build.1 built
  cases v with
  | array items => exact allChildren_reach (lookup_within h key).2 hread
  | _ => cases hread

theorem slot_reach {n : Nat} (h : ∀ e ∈ children, e.2.Within n) {key : String}
    {slot : Option Query} (built : (QueryRecord.slot children key).build members = .ok slot) :
    Query.reachSlot slot ≤ n + 3 := by
  rcases Record.defaulted_build.1 built with ⟨-, rfl⟩ | ⟨v, -, hread⟩
  · exact Nat.zero_le _
  · cases v with
    | null =>
      cases hread
      exact Nat.zero_le _
    | _ =>
      obtain ⟨q, hq, rfl⟩ := map_eq_ok.1 hread
      exact (lookup_within h key).1 q (Query.child_eq_ok.1 hq)

end QueryRecord

namespace Query
open QueryRecord (Children)

theorem decodeMembers_reach {members : Members} {children : List (String × Children)} {q : Query}
    (within : ∀ e ∈ children, e.2.Within (depthMembers members))
    (h : decodeMembers members children = .ok q) : q.reach ≤ depthMembers members + 4 := by
  obtain ⟨-, built, -⟩ := build_of_decodeMembers h
  cases q with
  | onField c field b =>
    have nesting := QueryRecord.nesting_le_of_build built
    rw [reach]
    omega
  | documents | everything | nothing | queryString =>
    rw [reach]
    omega
  | conjunction cs b =>
    obtain ⟨f1, b', h1, -, same⟩ := Record.seq_build.1 built
    obtain ⟨ps, hps, rfl⟩ := Record.map_build.1 h1
    cases same
    exact Nat.add_le_add_right (QueryRecord.clauses_reach within hps) 2
  | disjunction ds min b =>
    obtain ⟨f1, b', h1, -, same⟩ := Record.seq_build.1 built
    obtain ⟨f2, n, h2, -, rfl⟩ := Record.seq_build.1 h1
    obtain ⟨ps, hps, rfl⟩ := Record.map_build.1 h2
    cases same
    exact Nat.add_le_add_right (QueryRecord.clauses_reach within hps) 2
  | boolean must should mustNot b =>
    obtain ⟨f1, b', h1, -, same⟩ := Record.seq_build.1 built
    obtain ⟨f2, z, h2, hz, rfl⟩ := Record.seq_build.1 h1
    obtain ⟨f3, y, h3, hy, rfl⟩ := Record.seq_build.1 h2
    obtain ⟨x, hx, rfl⟩ := Record.map_build.1 h3
    cases same
    have first := QueryRecord.slot_reach within hx
    have second := QueryRecord.slot_reach within hy
    have third := QueryRecord.slot_reach within hz
    rw [reach]
    omega

mutual

/-- By induction on the value: the children of a node are decoded from values inside it. -/
theorem decode_reach : ∀ (v : Json) (q : Query), decode v = .ok q → q.reach ≤ v.depth + 3
  | .object members, q, h => by
    rw [Json.depth]
    exact decodeMembers_reach (decodeChildren_within members) h
  | .null, q, h => by cases h
  | .boolean _, q, h => by cases h
  | .number _, q, h => by cases h
  | .string _, q, h => by cases h
  | .array _, q, h => by cases h

theorem decodeChildren_within : ∀ members : Members,
    ∀ e ∈ decodeChildren members, e.2.Within (depthMembers members)
  | [] => by simp [decodeChildren]
  | (key, v) :: rest => by
    rw [decodeChildren, depthMembers]
    refine List.forall_mem_cons.2 ⟨?_, fun e he => ?_⟩
    · have value : Children.Within v.depth ⟨decode v, decodeItems v⟩ :=
        ⟨decode_reach v, decodeItems_reach v⟩
      exact value.mono (Nat.le_max_left _ _)
    · exact (decodeChildren_within rest e he).mono (Nat.le_max_right _ _)

theorem decodeItems_reach : ∀ v : Json, ∀ r ∈ decodeItems v, ∀ q, r = .ok q →
    q.reach ≤ v.depth + 2
  | .array items => by
    rw [decodeItems, Json.depth]
    exact decodeEach_reach items
  | .object _ => by simp [decodeItems]
  | .null => by simp [decodeItems]
  | .boolean _ => by simp [decodeItems]
  | .number _ => by simp [decodeItems]
  | .string _ => by simp [decodeItems]

theorem decodeEach_reach : ∀ items : List Json, ∀ r ∈ decodeEach items, ∀ q, r = .ok q →
    q.reach ≤ depthItems items + 3
  | [] => by simp [decodeEach]
  | v :: rest => by
    rw [decodeEach, depthItems]
    refine List.forall_mem_cons.2 ⟨fun q h => ?_, fun r hr q h => ?_⟩
    · exact Nat.le_trans (decode_reach v q h) (Nat.add_le_add_right (Nat.le_max_left _ _) 3)
    · exact Nat.le_trans (decodeEach_reach rest r hr q h)
        (Nat.add_le_add_right (Nat.le_max_right _ _) 3)

end

theorem depth_of_expand {v : Json} {q e : Query} (decoded : decode v = .ok q)
    (expanded : q.expand = .ok e) : e.toJson.depth ≤ v.depth + 3 := by
  rw [expand_eq] at expanded
  exact Nat.le_trans (replaceTexts_depth q e expanded) (decode_reach v q decoded)

end Query

@[simp] theorem stringsJson_isFinite (texts : List String) : (stringsJson texts).IsFinite :=
  Json.isFinite_array Json.string_isFinite texts

@[simp] theorem boostMember_isFinite (boost : Option Float) :
    Json.MembersFinite (boostMember boost) :=
  optionalMember_isFinite Json.ofFloat_isFinite boost

@[simp] theorem fieldMember_isFinite (field : String) : Json.MembersFinite (fieldMember field) := by
  rw [fieldMember]
  split
  · trivial
  · exact ⟨trivial, trivial⟩

@[simp] theorem fuzzinessMember_isFinite (fuzziness : Option Fuzziness) :
    Json.MembersFinite (fuzzinessMember fuzziness) :=
  optionalMember_isFinite (fun f => by cases f <;> trivial) fuzziness

theorem Bounds.members_isFinite {α : Type} {write : α → Json} (h : ∀ x, (write x).IsFinite)
    (lower upper : String) (b : Bounds α) : Json.MembersFinite (b.members write lower upper) := by
  simp [Bounds.members, h]

theorem Criterion.members_isFinite (c : Criterion) (field : String) (boost : Option Float) :
    Json.MembersFinite (c.members (fieldMember field) (boostMember boost)) := by
  cases c with
  | numericRange b => simp [members, Bounds.members_isFinite Json.ofFloat_isFinite]
  | termRange b => simp [members, Bounds.members_isFinite Json.string_isFinite]
  | dateRange b parser => simp [members, Bounds.members_isFinite Json.string_isFinite]
  | multiPhrase terms fuzziness =>
    have terms := Json.isFinite_array stringsJson_isFinite terms
    simp [members, Json.MembersFinite, terms]
  | geoBox topLeft bottomRight =>
    simp [members, Json.MembersFinite, Geo.Point.toJson_isFinite]
  | geoDistance center distance =>
    simp [members, Json.MembersFinite, Geo.Point.toJson_isFinite]
  | geoPolygon points =>
    simp [members, Json.MembersFinite, Geo.Shape.pointsJson_isFinite]
  | geoShape shape relation =>
    have geometry : (Json.object [("shape", shape.toJson),
        ("relation", .string relation.name)]).IsFinite :=
      ⟨Geo.Shape.toJson_isFinite shape, trivial, trivial⟩
    simp [members, Json.MembersFinite, geometry]
  | _ => simp [members, Json.MembersFinite]

namespace Query

mutual

theorem toJson_isFinite : ∀ q : Query, q.toJson.IsFinite
  | .onField c field boost => c.members_isFinite field boost
  | .documents ids boost => ⟨stringsJson_isFinite ids, boostMember_isFinite boost⟩
  | .everything boost => ⟨trivial, boostMember_isFinite boost⟩
  | .nothing boost => ⟨trivial, boostMember_isFinite boost⟩
  | .queryString _ boost => ⟨trivial, boostMember_isFinite boost⟩
  | .conjunction cs boost => ⟨toJsons_isFinite cs, boostMember_isFinite boost⟩
  | .disjunction ds min boost => ⟨toJsons_isFinite ds,
      Json.membersFinite_append.2
        ⟨optionalMember_isFinite Json.ofUInt32_isFinite min, boostMember_isFinite boost⟩⟩
  | .boolean must should mustNot boost => by
    simp only [toJson, Json.IsFinite, Json.membersFinite_append]
    exact ⟨⟨⟨slotMember_isFinite "must" must, slotMember_isFinite "should" should⟩,
      slotMember_isFinite "must_not" mustNot⟩, boostMember_isFinite boost⟩

theorem toJsons_isFinite : ∀ qs : List Query, Json.ItemsFinite (toJsons qs)
  | [] => trivial
  | q :: rest => ⟨toJson_isFinite q, toJsons_isFinite rest⟩

theorem slotMember_isFinite (key : String) : ∀ slot : Option Query,
    Json.MembersFinite (slotMember key slot)
  | none => trivial
  | some q => ⟨toJson_isFinite q, trivial⟩

end

end Query

end SearchQuery
