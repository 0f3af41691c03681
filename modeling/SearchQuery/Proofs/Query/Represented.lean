import SearchQuery.Proofs.Query.Equality
import SearchQuery.Proofs.Query.Everywhere
import SearchQuery.Proofs.Query.Written

/-!
# The values of queries

A query is decoded from its own value exactly when the value holds all of it.  Numbers that are not
finite are lost in a value, and so is the kind of a query that leaves out each part by which it is
told.
-/

set_option autoImplicit false
namespace SearchQuery
open Json (Record valueMembers latest)

namespace Criterion

def IsFinite : Criterion → Prop
  | .numericRange b => (∀ x ∈ b.min, x.isFinite = true) ∧ ∀ x ∈ b.max, x.isFinite = true
  | c => c.IsLocated

def IsComplete : Criterion → Prop
  | .fuzzy _ _ fuzziness => fuzziness ≠ none
  | .multiPhrase terms _ => terms ≠ []
  | .numericRange b => b.IsBound
  | .termRange b => b.IsBound
  | .dateRange b _ => b.IsBound
  | _ => True

variable {c : Criterion}

theorem IsFinite.located (h : c.IsFinite) : c.IsLocated := by
  cases c with
  | numericRange b => trivial
  | _ => exact h

theorem IsFinite.settled_eq_self (h : c.IsFinite) : c.settled = c := by
  cases c with
  | numericRange b =>
    rw [settled, filter_isFinite_eq_self h.1, filter_isFinite_eq_self h.2]
  | _ => rfl

theorem isFinite_of_same (located : c.IsLocated) (same : c.settled.same c = true) :
    c.IsFinite := by
  cases c with
  | numericRange b =>
    change (b.min.filter Float.isFinite == b.min && (b.max.filter Float.isFinite == b.max &&
      (b.inclusiveMin == b.inclusiveMin && b.inclusiveMax == b.inclusiveMax))) = true at same
    rw [Bool.and_eq_true, Bool.and_eq_true] at same
    exact ⟨filter_isFinite_beq.1 same.1, filter_isFinite_beq.1 same.2.1⟩
  | _ => exact located

theorem IsFinite.same_self (h : c.IsFinite) : c.same c = true := by
  cases c with
  | numericRange b =>
    change (b.min == b.min && (b.max == b.max &&
      (b.inclusiveMin == b.inclusiveMin && b.inclusiveMax == b.inclusiveMax))) = true
    rw [option_beq_self h.1, option_beq_self h.2, beq_self_eq_true, beq_self_eq_true]
    rfl
  | termRange b =>
    change (b.min == b.min && (b.max == b.max &&
      (b.inclusiveMin == b.inclusiveMin && b.inclusiveMax == b.inclusiveMax))) = true
    simp
  | dateRange b parser =>
    change ((b.min == b.min && (b.max == b.max &&
      (b.inclusiveMin == b.inclusiveMin && b.inclusiveMax == b.inclusiveMax))) &&
      parser == parser) = true
    simp
  | geoBox topLeft bottomRight =>
    rw [same, Geo.Point.beq_self h.1, Geo.Point.beq_self h.2]
    rfl
  | geoDistance center distance =>
    rw [same, Geo.Point.beq_self h, beq_self_eq_true]
    rfl
  | geoPolygon points => exact Geo.points_beq_self h
  | geoShape shape relation =>
    have shapes : (shape == shape) = true := Geo.Shape.same_self shape h
    rw [same, shapes, beq_self_eq_true]
    rfl
  | _ => simp [same]

theorem kind_eq_of_same {c d : Criterion} (h : c.same d = true) : c.kind = d.kind := by
  unfold same at h
  split at h
  all_goals first | rfl | cases h

theorem IsComplete.selected (complete : c.IsComplete) (finite : c.IsFinite) : c.IsSelected := by
  cases c with
  | numericRange b =>
    rcases complete with h | h
    · obtain ⟨x, hx⟩ := Option.ne_none_iff_exists'.1 h
      exact .inl (by rw [hx, Option.any_some, finite.1 x hx])
    · obtain ⟨x, hx⟩ := Option.ne_none_iff_exists'.1 h
      exact .inr (by rw [hx, Option.any_some, finite.2 x hx])
  | multiPhrase terms fuzziness => trivial
  | fuzzy | termRange | dateRange => exact complete
  | _ => trivial

end Criterion

section Phrases
variable (terms : List (List String)) (fuzziness : Option Fuzziness) (field : String)
  (boost : Option Float)

/-- A list of alternatives is read as plain terms only if it is empty. -/
theorem phrase_build_written :
    (∃ q, QueryRecord.phrase.build (valueMembers ((Criterion.multiPhrase terms fuzziness).members
      (fieldMember field) (boostMember boost))) = .ok q) ↔ terms = [] := by
  constructor
  · rintro ⟨q, h⟩
    obtain ⟨c, f, b, hc, -, -⟩ := QueryRecord.onField_build h
    obtain ⟨make, fz, hmake, -, -⟩ := Record.seq_build.1 hc
    obtain ⟨texts, htexts, -⟩ := Record.map_build.1 hmake
    obtain ⟨v, hv, hread⟩ := Record.required_build.1 htexts
    rw [Json.lookup_valueMembers] at hv
    cases terms with
    | nil => rfl
    | cons alternatives rest =>
      simp only [Criterion.members, List.cons_append, Json.latest_cons, Json.latest_append,
        latest_fuzzinessMember, latest_boostMember, latest_fieldMember] at hv
      cases hv
      cases hread
  · rintro rfl
    exact ⟨_, (Criterion.recovers [] (.phrase [] fuzziness) field boost _).2 ⟨trivial, rfl⟩⟩

end Phrases

section Complete
variable {c : Criterion} {field : String} {boost : Option Float}

theorem Criterion.isComplete_of_selected (selected : c.IsSelected)
    (alternatives : c.kind = .multiPhrase → ∀ q, QueryRecord.phrase.build
      (valueMembers (c.members (fieldMember field) (boostMember boost))) ≠ .ok q) :
    c.IsComplete := by
  cases c with
  | multiPhrase terms fuzziness =>
    intro empty
    obtain ⟨q, hq⟩ := (phrase_build_written terms fuzziness field boost).2 empty
    exact alternatives rfl q hq
  | numericRange b =>
    rcases selected with h | h
    · refine .inl fun none => ?_
      rw [none] at h
      cases h
    · refine .inr fun none => ?_
      rw [none] at h
      cases h
  | fuzzy | termRange | dateRange => exact selected
  | _ => trivial

theorem Criterion.IsComplete.alternatives (complete : c.IsComplete) (multi : c.kind = .multiPhrase)
    (q : Query) : QueryRecord.phrase.build
      (valueMembers (c.members (fieldMember field) (boostMember boost))) ≠ .ok q := by
  cases c with
  | multiPhrase terms fuzziness =>
    intro flat
    exact complete ((phrase_build_written terms fuzziness field boost).1 ⟨q, flat⟩)
  | _ => cases multi

end Complete

namespace Query
open QueryRecord (Children ofKind)

/-- The value that is written for a query. -/
def value (q : Query) : Json := q.toJson.normalize

def IsFinite : Query → Prop
  | .onField c _ boost => c.IsFinite ∧ ∀ x ∈ boost, x.isFinite = true
  | q => ∀ x ∈ q.boost?, x.isFinite = true

def IsComplete : Query → Prop
  | .onField c _ _ => c.IsComplete
  | .boolean must should mustNot _ => must ≠ none ∨ should ≠ none ∨ mustNot ≠ none
  | _ => True

/-- The value of the node holds all of it, apart from its children. -/
structure IsRepresentable (q : Query) : Prop where
  finite : q.IsFinite
  complete : q.IsComplete

theorem kind_eq_of_same {p q : Query} (h : p.same q = true) : p.kind = q.kind := by
  unfold same at h
  split at h
  · simp only [Bool.and_eq_true] at h
    exact Criterion.kind_eq_of_same h.1.1
  all_goals first | rfl | cases h

section Nodes
variable {p : Query} {boost : Option Float}

theorem decodeMembers_eq_ok {members : Members} {children : List (String × Children)}
    (sorted : Json.Sorted members) :
    decodeMembers members children = .ok p ↔
      Kind.ofMembers members = some p.kind.rule ∧ (ofKind children p.kind).build members = .ok p ∧
        (p.kind = .multiPhrase → ∀ r, QueryRecord.phrase.build members ≠ .ok r) :=
  ⟨build_of_decodeMembers, fun h => decodeMembers_of_build sorted h.1 h.2.1 h.2.2⟩

theorem returns_onField (c : Criterion) (field : String) :
    decode (onField c field boost).value = .ok p ∧ p.same (.onField c field boost) = true ↔
      p = .onField c field boost ∧ (onField c field boost).IsRepresentable := by
  let members := valueMembers (c.members (fieldMember field) (boostMember boost))
  change decodeMembers members (decodeChildren members) = .ok p ∧ _ ↔ _
  rw [decodeMembers_eq_ok (Json.valueMembers_sorted _)]
  constructor
  · rintro ⟨⟨selected, built, alternatives⟩, same⟩
    have kind : p.kind = c.kind := kind_eq_of_same same
    rw [kind] at selected built alternatives
    -- what is recovered lacks the numbers that are not finite, and equality tells it from the query
    obtain ⟨located, rfl⟩ := (c.recovers _ field boost p).1 built
    rw [Query.same, Bool.and_eq_true, Bool.and_eq_true] at same
    obtain ⟨⟨sameCriterion, -⟩, sameBoost⟩ := same
    have finite := Criterion.isFinite_of_same located sameCriterion
    have finiteBoost := filter_isFinite_beq.1 sameBoost
    have complete := Criterion.isComplete_of_selected
      ((c.ofMembers_written field boost).1 selected) alternatives
    rw [finite.settled_eq_self, filter_isFinite_eq_self finiteBoost]
    exact ⟨rfl, ⟨finite, finiteBoost⟩, complete⟩
  · rintro ⟨rfl, ⟨finite, finiteBoost⟩, complete⟩
    have built := (c.recovers (decodeChildren members) field boost _).2 ⟨finite.located, rfl⟩
    rw [finite.settled_eq_self, filter_isFinite_eq_self finiteBoost] at built
    refine ⟨⟨(c.ofMembers_written field boost).2 (complete.selected finite), built,
      complete.alternatives⟩, ?_⟩
    have sameCriterion : (c == c) = true := finite.same_self
    rw [Query.same, sameCriterion, beq_self_eq_true, option_beq_self finiteBoost]
    rfl

theorem decodeMembers_same {q : Query} {members : Members} {children : List (String × Children)}
    (sorted : Json.Sorted members) (other : q.kind ≠ .multiPhrase) :
    decodeMembers members children = .ok p ∧ p.same q = true ↔
      Kind.ofMembers members = some q.kind ∧ (ofKind children q.kind).build members = .ok p ∧
        p.same q = true := by
  rw [decodeMembers_eq_ok sorted]
  constructor
  · rintro ⟨⟨selected, built, -⟩, same⟩
    rw [kind_eq_of_same same] at selected built
    rw [Kind.rule_eq_self other] at selected
    exact ⟨selected, built, same⟩
  · rintro ⟨selected, built, same⟩
    rw [kind_eq_of_same same, Kind.rule_eq_self other]
    exact ⟨⟨selected, built, fun multi => absurd multi other⟩, same⟩

theorem returns_leaf {make : Option Float → Query} {kind : Kind} (members : Members)
    (hkind : ∀ b, (make b).kind = kind) (other : kind ≠ .multiPhrase)
    (selected : Kind.ofMembers (valueMembers members) = some kind)
    (recovers : (ofKind (decodeChildren (valueMembers members)) kind).Recovers members True
      (make (boost.filter Float.isFinite)))
    (same : ∀ a b, (make a).same (make b) = (a == b))
    (leaf : (make boost).IsRepresentable ↔ ∀ x ∈ boost, x.isFinite = true) :
    decode (.object (valueMembers members)) = .ok p ∧ p.same (make boost) = true ↔
      p = make boost ∧ (make boost).IsRepresentable := by
  rw [decode, decodeMembers_same (Json.valueMembers_sorted _) (by rwa [hkind]), hkind, leaf]
  constructor
  · rintro ⟨-, built, sameBoost⟩
    obtain ⟨-, rfl⟩ := (recovers p).1 built
    rw [same] at sameBoost
    have finite := filter_isFinite_beq.1 sameBoost
    rw [filter_isFinite_eq_self finite]
    exact ⟨rfl, finite⟩
  · rintro ⟨rfl, finite⟩
    rw [filter_isFinite_eq_self finite] at recovers
    rw [same, option_beq_self finite]
    exact ⟨selected, (recovers _).2 ⟨trivial, rfl⟩, rfl⟩

theorem returns_documents {ids : List String} :
    decode (documents ids boost).value = .ok p ∧ p.same (documents ids boost) = true ↔
      p = documents ids boost ∧ (documents ids boost).IsRepresentable := by
  have texts : Json.RestoresAll (Json.listOf Json.text : QueryReader _) stringsJson := by
    refine .intro fun ids => ?_
    exact (Json.restores_text.listOf ids ids).2 ⟨fun _ _ => trivial, rfl⟩
  refine returns_leaf (("ids", stringsJson ids) :: boostMember boost) (fun _ => rfl) (by simp)
    ?_ ?_ (fun a b => ?_) ⟨fun h => h.finite, fun h => ⟨h, trivial⟩⟩
  · simp [Kind.ofMembers, hasKey_valueMembers, anyEnd_valueMembers]
  · exact (((Record.Recovers.required (texts ids) (by simp)).map _).seq
      (QueryRecord.boost_recovers (by simp))).congr (by simp)
  · rw [same, beq_self_eq_true, Bool.true_and]

theorem returns_queryString {text : String} :
    decode (queryString text boost).value = .ok p ∧ p.same (queryString text boost) = true ↔
      p = queryString text boost ∧ (queryString text boost).IsRepresentable := by
  refine returns_leaf (("query", .string text) :: boostMember boost) (fun _ => rfl) (by simp)
    ?_ ?_ (fun a b => ?_) ⟨fun h => h.finite, fun h => ⟨h, trivial⟩⟩
  · simp [Kind.ofMembers, hasKey_valueMembers]
  · exact (((Record.Recovers.required (Json.restores_text text) (by simp)).map _).seq
      (QueryRecord.boost_recovers (by simp))).congr (by simp)
  · rw [same, beq_self_eq_true, Bool.true_and]

theorem marker_recovers {key : String} {members : Members}
    (written : latest key members = some (.object [])) :
    (QueryRecord.marker key).Recovers members True () := by
  have reads : Json.RestoresAll (fun _ => .ok () : QueryReader Unit) fun _ => .object [] :=
    .intro fun _ => rfl
  exact .defaulted reads (.inl written)

theorem returns_everything :
    decode (everything boost).value = .ok p ∧ p.same (everything boost) = true ↔
      p = everything boost ∧ (everything boost).IsRepresentable := by
  refine returns_leaf (("match_all", .object []) :: boostMember boost) (fun _ => rfl) (by simp)
    ?_ ?_ (fun a b => ?_) ⟨fun h => h.finite, fun h => ⟨h, trivial⟩⟩
  · simp [Kind.ofMembers, hasKey_valueMembers, anyEnd_valueMembers]
  · exact (((marker_recovers (by simp)).map _).seq (QueryRecord.boost_recovers (by simp))).congr
      (by simp)
  · rw [same]

theorem returns_nothing :
    decode (nothing boost).value = .ok p ∧ p.same (nothing boost) = true ↔
      p = nothing boost ∧ (nothing boost).IsRepresentable := by
  refine returns_leaf (("match_none", .object []) :: boostMember boost) (fun _ => rfl) (by simp)
    ?_ ?_ (fun a b => ?_) ⟨fun h => h.finite, fun h => ⟨h, trivial⟩⟩
  · simp [Kind.ofMembers, hasKey_valueMembers, anyEnd_valueMembers]
  · exact (((marker_recovers (by simp)).map _).seq (QueryRecord.boost_recovers (by simp))).congr
      (by simp)
  · rw [same]

end Nodes

theorem lookup_decodeChildren (key : String) (members : Members) :
    (decodeChildren members).lookup key =
      (Json.lookup key members).map fun v => ⟨decode v, decodeItems v⟩ := by
  induction members with
  | nil => rfl
  | cons m rest ih =>
    obtain ⟨k, v⟩ := m
    rw [decodeChildren, List.lookup_cons, Json.lookup, ih]
    by_cases h : k = key
    · rw [if_pos h, h, beq_self_eq_true]
      rfl
    · have other : (key == k) = false := beq_false_of_ne (Ne.symm h)
      rw [if_neg h, other]

def SlotReturns : Option Query → Option Query → Prop
  | none, slot => slot = none
  | some q, slot => ∃ p, decode q.value = .ok p ∧ slot = some p

section Children
variable {key : String} {members : Members}

theorem clauses_written {qs ps : List Query}
    (written : latest key members = some (.array (toJsons qs))) :
    (QueryRecord.clauses (decodeChildren (valueMembers members)) key).build
        (valueMembers members) = .ok ps ↔
      QueryRecord.allChildren (decodeEach (Json.normalizeItems (toJsons qs))) = .ok ps := by
  rw [QueryRecord.clauses, Record.required_build, lookup_decodeChildren, Json.lookup_valueMembers,
    written]
  simp [Json.normalize, decodeItems]

theorem child_eq_ok {r : Except DecodeError Query} {q : Query} :
    QueryRecord.child r = .ok q ↔ r = .ok q := by
  cases r <;> simp [QueryRecord.child]

theorem slot_written {slot slot' : Option Query}
    (written : latest key members = slot.map toJson) :
    (QueryRecord.slot (decodeChildren (valueMembers members)) key).build
        (valueMembers members) = .ok slot' ↔ SlotReturns slot slot' := by
  rw [QueryRecord.slot, Record.optional, Record.defaulted_build, lookup_decodeChildren,
    Json.lookup_valueMembers, written]
  cases slot with
  | none => simp [SlotReturns]
  | some q =>
    have object : ∃ ms, q.toJson.normalize = .object ms := by
      cases q <;> exact ⟨_, rfl⟩
    obtain ⟨ms, hms⟩ := object
    simp only [value, hms, Option.map_some, Option.some.injEq, reduceCtorEq, false_and, false_or,
      exists_eq_left', Option.getD_some, Json.nullable, map_eq_ok, child_eq_ok, SlotReturns]
    simp only [eq_comm]

end Children

section Composites
variable {p : Query} {boost : Option Float}

theorem returns_conjunction {cs : List Query} :
    decode (conjunction cs boost).value = .ok p ∧ p.same (conjunction cs boost) = true ↔
      ∃ ps, (QueryRecord.allChildren (decodeEach (Json.normalizeItems (toJsons cs))) = .ok ps ∧
        sameEach ps cs = true) ∧ (∀ x ∈ boost, x.isFinite = true) ∧ p = conjunction ps boost := by
  let members := ("conjuncts", Json.array (toJsons cs)) :: boostMember boost
  have hclauses : latest "conjuncts" members = some (.array (toJsons cs)) := by simp [members]
  have hboost : QueryRecord.boost.Recovers members True (boost.filter Float.isFinite) :=
    QueryRecord.boost_recovers (by simp [members])
  change decodeMembers (valueMembers members) (decodeChildren _) = .ok p ∧ _ ↔ _
  rw [decodeMembers_same (Json.valueMembers_sorted _) (by simp [kind])]
  constructor
  · rintro ⟨-, built, same⟩
    obtain ⟨f1, b, h1, hb, rfl⟩ := Record.seq_build.1 built
    obtain ⟨ps, hps, rfl⟩ := Record.map_build.1 h1
    obtain ⟨-, rfl⟩ := (hboost b).1 hb
    rw [Query.same, Bool.and_eq_true] at same
    have finite := filter_isFinite_beq.1 same.2
    rw [filter_isFinite_eq_self finite]
    exact ⟨ps, ⟨(clauses_written hclauses).1 hps, same.1⟩, finite, rfl⟩
  · rintro ⟨ps, ⟨hps, same⟩, finite, rfl⟩
    rw [filter_isFinite_eq_self finite] at hboost
    have selected : Kind.ofMembers (valueMembers members) = some .conjunction := by
      simp [Kind.ofMembers, hasKey_valueMembers, members]
    refine ⟨selected, Record.seq_build.2 ⟨_, boost, ?_, (hboost boost).2 ⟨trivial, rfl⟩, rfl⟩, ?_⟩
    · exact Record.map_build.2 ⟨ps, (clauses_written hclauses).2 hps, rfl⟩
    · rw [Query.same, same, option_beq_self finite]
      rfl

theorem returns_disjunction {ds : List Query} {min : Option UInt32} :
    decode (disjunction ds min boost).value = .ok p ∧ p.same (disjunction ds min boost) = true ↔
      ∃ ps, (QueryRecord.allChildren (decodeEach (Json.normalizeItems (toJsons ds))) = .ok ps ∧
        sameEach ps ds = true) ∧ (∀ x ∈ boost, x.isFinite = true) ∧
        p = disjunction ps min boost := by
  let members := ("disjuncts", Json.array (toJsons ds)) ::
    optionalMember "min" Json.ofUInt32 min ++ boostMember boost
  have hclauses : latest "disjuncts" members = some (.array (toJsons ds)) := by simp [members]
  have hmin : (Record.optional "min" QueryRecord.clauseCount : QueryRecord _).Recovers members True
      min := .optional restores_clauseCount natural32_not_null (by simp [members])
  have hboost : QueryRecord.boost.Recovers members True (boost.filter Float.isFinite) :=
    QueryRecord.boost_recovers (by simp [members])
  change decodeMembers (valueMembers members) (decodeChildren _) = .ok p ∧ _ ↔ _
  rw [decodeMembers_same (Json.valueMembers_sorted _) (by simp [kind])]
  constructor
  · rintro ⟨-, built, same⟩
    obtain ⟨f1, b, h1, hb, rfl⟩ := Record.seq_build.1 built
    obtain ⟨f2, n, h2, hn, rfl⟩ := Record.seq_build.1 h1
    obtain ⟨ps, hps, rfl⟩ := Record.map_build.1 h2
    obtain ⟨-, rfl⟩ := (hboost b).1 hb
    obtain ⟨-, rfl⟩ := (hmin n).1 hn
    rw [Query.same, Bool.and_eq_true, Bool.and_eq_true] at same
    have finite := filter_isFinite_beq.1 same.2
    rw [filter_isFinite_eq_self finite]
    exact ⟨ps, ⟨(clauses_written hclauses).1 hps, same.1.1⟩, finite, rfl⟩
  · rintro ⟨ps, ⟨hps, same⟩, finite, rfl⟩
    rw [filter_isFinite_eq_self finite] at hboost
    have selected : Kind.ofMembers (valueMembers members) = some .disjunction := by
      simp [Kind.ofMembers, hasKey_valueMembers, members]
    refine ⟨selected, Record.seq_build.2 ⟨_, boost, ?_, (hboost boost).2 ⟨trivial, rfl⟩, rfl⟩, ?_⟩
    · refine Record.seq_build.2 ⟨_, min, ?_, (hmin min).2 ⟨trivial, rfl⟩, rfl⟩
      exact Record.map_build.2 ⟨ps, (clauses_written hclauses).2 hps, rfl⟩
    · rw [Query.same, same, beq_self_eq_true, option_beq_self finite]
      rfl

theorem returns_boolean {must should mustNot : Option Query} :
    decode (boolean must should mustNot boost).value = .ok p ∧
        p.same (boolean must should mustNot boost) = true ↔
      ∃ a b c, (SlotReturns must a ∧ sameSlot a must = true) ∧
        (SlotReturns should b ∧ sameSlot b should = true) ∧
        (SlotReturns mustNot c ∧ sameSlot c mustNot = true) ∧
        (boolean must should mustNot boost).IsRepresentable ∧ p = boolean a b c boost := by
  let members := slotMember "must" must ++ slotMember "should" should ++
    slotMember "must_not" mustNot ++ boostMember boost
  have hmust : latest "must" members = must.map toJson := by simp [members]
  have hshould : latest "should" members = should.map toJson := by simp [members]
  have hmustNot : latest "must_not" members = mustNot.map toJson := by simp [members]
  have hboost : QueryRecord.boost.Recovers members True (boost.filter Float.isFinite) :=
    QueryRecord.boost_recovers (by simp [members])
  have selected : Kind.ofMembers (valueMembers members) = some .boolean ↔
      must ≠ none ∨ should ≠ none ∨ mustNot ≠ none := by
    cases must <;> cases should <;> cases mustNot <;>
      simp [Kind.ofMembers, hasKey_valueMembers, anyEnd_valueMembers, members]
  change decodeMembers (valueMembers members) (decodeChildren _) = .ok p ∧ _ ↔ _
  rw [decodeMembers_same (Json.valueMembers_sorted _) (by simp [kind])]
  constructor
  · rintro ⟨filled, built, same⟩
    obtain ⟨f1, x, h1, hx, rfl⟩ := Record.seq_build.1 built
    obtain ⟨f2, c, h2, hc, rfl⟩ := Record.seq_build.1 h1
    obtain ⟨f3, b, h3, hb, rfl⟩ := Record.seq_build.1 h2
    obtain ⟨a, ha, rfl⟩ := Record.map_build.1 h3
    obtain ⟨-, rfl⟩ := (hboost x).1 hx
    rw [Query.same, Bool.and_eq_true, Bool.and_eq_true, Bool.and_eq_true] at same
    obtain ⟨⟨⟨sameMust, sameShould⟩, sameMustNot⟩, sameBoost⟩ := same
    have finite := filter_isFinite_beq.1 sameBoost
    rw [filter_isFinite_eq_self finite]
    exact ⟨a, b, c, ⟨(slot_written hmust).1 ha, sameMust⟩,
      ⟨(slot_written hshould).1 hb, sameShould⟩, ⟨(slot_written hmustNot).1 hc, sameMustNot⟩,
      ⟨finite, selected.1 filled⟩, rfl⟩
  · rintro ⟨a, b, c, ⟨ha, sameMust⟩, ⟨hb, sameShould⟩, ⟨hc, sameMustNot⟩, ⟨finite, filled⟩, rfl⟩
    have finite : ∀ x ∈ boost, x.isFinite = true := finite
    rw [filter_isFinite_eq_self finite] at hboost
    refine ⟨selected.2 filled,
      Record.seq_build.2 ⟨_, boost, ?_, (hboost boost).2 ⟨trivial, rfl⟩, rfl⟩, ?_⟩
    · refine Record.seq_build.2 ⟨_, c, ?_, (slot_written hmustNot).2 hc, rfl⟩
      refine Record.seq_build.2 ⟨_, b, ?_, (slot_written hshould).2 hb, rfl⟩
      exact Record.map_build.2 ⟨a, (slot_written hmust).2 ha, rfl⟩
    · rw [Query.same, sameMust, sameShould, sameMustNot, option_beq_self finite]
      rfl

end Composites

mutual

/-- Its own value takes a query back to itself if and only if every node can be represented. -/
theorem returns_iff : ∀ q p : Query, decode q.value = .ok p ∧ p.same q = true ↔
    p = q ∧ Everywhere IsRepresentable q
  | .onField c field boost, p => returns_onField c field
  | .documents ids boost, p => returns_documents
  | .everything boost, p => returns_everything
  | .nothing boost, p => returns_nothing
  | .queryString text boost, p => returns_queryString
  | .conjunction cs boost, p => by
    rw [returns_conjunction]
    constructor
    · rintro ⟨ps, hps, finite, rfl⟩
      obtain ⟨rfl, all⟩ := (returnsEach_iff cs ps).1 hps
      exact ⟨rfl, ⟨finite, trivial⟩, all⟩
    · rintro ⟨rfl, representable, all⟩
      exact ⟨cs, (returnsEach_iff cs cs).2 ⟨rfl, all⟩, representable.finite, rfl⟩
  | .disjunction ds min boost, p => by
    rw [returns_disjunction]
    constructor
    · rintro ⟨ps, hps, finite, rfl⟩
      obtain ⟨rfl, all⟩ := (returnsEach_iff ds ps).1 hps
      exact ⟨rfl, ⟨finite, trivial⟩, all⟩
    · rintro ⟨rfl, representable, all⟩
      exact ⟨ds, (returnsEach_iff ds ds).2 ⟨rfl, all⟩, representable.finite, rfl⟩
  | .boolean must should mustNot boost, p => by
    rw [returns_boolean]
    constructor
    · rintro ⟨a, b, c, ha, hb, hc, representable, rfl⟩
      obtain ⟨rfl, allMust⟩ := (slotReturns_iff must a).1 ha
      obtain ⟨rfl, allShould⟩ := (slotReturns_iff should b).1 hb
      obtain ⟨rfl, allMustNot⟩ := (slotReturns_iff mustNot c).1 hc
      exact ⟨rfl, representable, allMust, allShould, allMustNot⟩
    · rintro ⟨rfl, representable, allMust, allShould, allMustNot⟩
      exact ⟨must, should, mustNot, (slotReturns_iff must must).2 ⟨rfl, allMust⟩,
        (slotReturns_iff should should).2 ⟨rfl, allShould⟩,
        (slotReturns_iff mustNot mustNot).2 ⟨rfl, allMustNot⟩, representable, rfl⟩

theorem returnsEach_iff : ∀ qs ps : List Query,
    QueryRecord.allChildren (decodeEach (Json.normalizeItems (toJsons qs))) = .ok ps ∧
        sameEach ps qs = true ↔
      ps = qs ∧ EverywhereIn IsRepresentable qs
  | [], ps => by
    constructor
    · rintro ⟨h, -⟩
      cases h
      exact ⟨rfl, trivial⟩
    · rintro ⟨rfl, -⟩
      exact ⟨rfl, rfl⟩
  | q :: rest, ps => by
    rw [toJsons, Json.normalizeItems, decodeEach, QueryRecord.allChildren]
    simp only [bind_eq_ok, pure_eq_ok, child_eq_ok]
    constructor
    · rintro ⟨⟨p, hp, ps, hps, rfl⟩, same⟩
      rw [sameEach, Bool.and_eq_true] at same
      obtain ⟨rfl, first⟩ := (returns_iff q p).1 ⟨hp, same.1⟩
      obtain ⟨rfl, others⟩ := (returnsEach_iff rest ps).1 ⟨hps, same.2⟩
      exact ⟨rfl, first, others⟩
    · rintro ⟨rfl, first, others⟩
      obtain ⟨hq, sameFirst⟩ := (returns_iff q q).2 ⟨rfl, first⟩
      obtain ⟨hrest, sameRest⟩ := (returnsEach_iff rest rest).2 ⟨rfl, others⟩
      rw [sameEach, sameFirst, sameRest]
      exact ⟨⟨q, hq, rest, hrest, rfl⟩, rfl⟩

theorem slotReturns_iff : ∀ slot slot' : Option Query,
    SlotReturns slot slot' ∧ sameSlot slot' slot = true ↔
      slot' = slot ∧ EverywhereSlot IsRepresentable slot
  | none, slot => by
    constructor
    · rintro ⟨rfl, -⟩
      exact ⟨rfl, trivial⟩
    · rintro ⟨rfl, -⟩
      exact ⟨rfl, rfl⟩
  | some q, slot => by
    constructor
    · rintro ⟨⟨p, hp, rfl⟩, same⟩
      obtain ⟨rfl, all⟩ := (returns_iff q p).1 ⟨hp, same⟩
      exact ⟨rfl, all⟩
    · rintro ⟨rfl, all⟩
      obtain ⟨hq, same⟩ := (returns_iff q q).2 ⟨rfl, all⟩
      exact ⟨⟨q, hq, rfl⟩, same⟩

end

/-- A tree whose nodes can all be represented is decoded from its value, and as nothing else. -/
theorem decode_value {q : Query} (representable : q.Everywhere IsRepresentable) :
    decode q.value = .ok q ∧ q.same q = true :=
  (returns_iff q q).2 ⟨rfl, representable⟩

/-- Nodes of every sort that has to be told apart, among them a shape inside shapes. -/
theorem decode_value_nested :
    let north : Geo.Shape := .collection [.point ⟨-0.0, 90.0⟩, .circle ⟨1.5, 2.5⟩ "1km"]
    let near : Query := .onField (.geoShape (.collection [north]) .within) "area" none
    let words : Query := .onField (.multiPhrase [[], ["quick", "fast"]] (some .auto)) "" (some 2.0)
    let since : Query := .onField (.dateRange ⟨none, some "", none, some true⟩ (some "day")) "" none
    let prices : Query := .onField (.numericRange ⟨some 0.1, none, none, none⟩) "price" none
    let q : Query := .boolean (some (.conjunction [near, words, .queryString "+a" none] none)) none
      (some (.disjunction [since, prices, .boolean none (some (.nothing none)) none none] (some 2)
        none)) (some 0.5)
    q.Everywhere IsRepresentable ∧ decode q.value = .ok q ∧ q.same q = true := by
  intro north near words since prices q
  have unboosted : ∀ x ∈ (none : Option Float), x.isFinite = true := by simp
  have near_ok : near.IsRepresentable :=
    ⟨⟨⟨⟨⟨rfl, rfl⟩, ⟨rfl, rfl⟩, trivial⟩, trivial⟩, unboosted⟩, trivial⟩
  have words_ok : words.IsRepresentable := by
    refine ⟨⟨trivial, ?_⟩, List.cons_ne_nil _ _⟩
    rintro x ⟨⟩
    rfl
  have since_ok : since.IsRepresentable := by
    refine ⟨⟨trivial, unboosted⟩, .inr ?_⟩
    simp
  have prices_ok : prices.IsRepresentable := by
    refine ⟨⟨⟨?_, by simp⟩, unboosted⟩, .inl (by simp)⟩
    rintro x ⟨⟩
    rfl
  have inner : (Query.boolean none (some (.nothing none)) none none).IsRepresentable :=
    ⟨unboosted, .inr (.inl (by simp))⟩
  have root : q.IsRepresentable := by
    refine ⟨?_, .inl (by simp)⟩
    rintro x ⟨⟩
    rfl
  have all : q.Everywhere IsRepresentable :=
    ⟨root, ⟨⟨unboosted, trivial⟩, near_ok, words_ok, ⟨unboosted, trivial⟩, trivial⟩, trivial,
      ⟨unboosted, trivial⟩, since_ok, prices_ok,
      ⟨inner, trivial, ⟨unboosted, trivial⟩, trivial⟩, trivial⟩
  exact ⟨all, decode_value all⟩

end Query

end SearchQuery
