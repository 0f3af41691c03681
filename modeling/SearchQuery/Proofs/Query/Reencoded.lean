import SearchQuery.Proofs.Query.Represented

/-!
# Decoding what was decoded

A query that was decoded holds most of what its value needs: its numbers are finite, and its ranges
and phrases are told by the value that they were decoded from.  It may lack what a key leaves open
that has null for a value, and finite coordinates where a point was given as a text.
-/

set_option autoImplicit false
namespace SearchQuery
open Json (Record)

def Criterion.IsRead : Criterion → Prop
  | .multiPhrase terms _ => terms ≠ []
  | .numericRange b =>
    ((∀ x ∈ b.min, x.isFinite = true) ∧ ∀ x ∈ b.max, x.isFinite = true) ∧ b.IsBound
  | .termRange b => b.IsBound
  | .geoShape shape _ => shape.IsFinite
  | _ => True

namespace QueryRecord
variable {members : Members}

theorem ne_none_of_lookup {α : Type} {read : QueryReader α} {key : String} {v : Json} {x : Option α}
    (built : (Record.optional key read).build members = .ok x)
    (found : Json.lookup key members = some v) (notNull : v ≠ .null) : x ≠ none := by
  rcases Record.defaulted_build.1 built with ⟨absent, -⟩ | ⟨w, hw, hx⟩
  · rw [absent] at found
    cases found
  · rw [hw] at found
    cases found
    rintro rfl
    cases v with
    | null => exact notNull rfl
    | _ =>
      obtain ⟨a, -, ha⟩ := map_eq_ok.1 hx
      cases ha

theorem bounds_build {α : Type} {read : QueryReader α} {lower upper : String} {b : Bounds α}
    (h : (bounds read lower upper).build members = .ok b) :
    (Record.optional lower read).build members = .ok b.min ∧
      (Record.optional upper read).build members = .ok b.max := by
  obtain ⟨f1, upperIncluded, h1, -, rfl⟩ := Record.seq_build.1 h
  obtain ⟨f2, lowerIncluded, h2, -, rfl⟩ := Record.seq_build.1 h1
  obtain ⟨f3, max, h3, hmax, rfl⟩ := Record.seq_build.1 h2
  obtain ⟨min, hmin, rfl⟩ := Record.map_build.1 h3
  exact ⟨hmin, hmax⟩

theorem isBound_of_anyEnd {α : Type} {read : QueryReader α} {b : Bounds α} {isType : Json → Bool}
    (built : (bounds read "min" "max").build members = .ok b) (some : anyEnd isType members = true)
    (notNull : isType .null = false) : b.IsBound := by
  have present : ∀ v : Json, isType v = true → v ≠ .null := by
    rintro v hv rfl
    rw [notNull] at hv
    cases hv
  obtain ⟨hmin, hmax⟩ := bounds_build built
  simp only [anyEnd, List.any_cons, List.any_nil, Bool.or_false, Bool.or_eq_true,
    Option.any_eq_true] at some
  rcases some with ⟨v, hv, type⟩ | ⟨v, hv, type⟩
  · exact .inl (ne_none_of_lookup hmin hv (present v type))
  · exact .inr (ne_none_of_lookup hmax hv (present v type))

/-- An empty list of alternatives is a list of plain terms. -/
theorem phrase_build_of_empty {fuzziness : Option Fuzziness} {field : String} {boost : Option Float}
    (h : multiPhrase.build members = .ok (.onField (.multiPhrase [] fuzziness) field boost)) :
    phrase.build members = .ok (.onField (.phrase [] fuzziness) field boost) := by
  obtain ⟨f1, b, h1, hboost, h⟩ := Record.seq_build.1 h
  obtain ⟨f2, f, h2, hfield, rfl⟩ := Record.seq_build.1 h1
  obtain ⟨c, hc, rfl⟩ := Record.map_build.1 h2
  cases h
  obtain ⟨f3, fz, h3, hfuzziness, hc⟩ := Record.seq_build.1 hc
  obtain ⟨terms, hterms, rfl⟩ := Record.map_build.1 h3
  cases hc
  obtain ⟨v, hv, hread⟩ := Record.required_build.1 hterms
  have empty : v = .array [] := by
    cases v with
    | array items =>
      cases items with
      | nil => rfl
      | cons w rest =>
        obtain ⟨x, -, hread⟩ := bind_eq_ok.1 hread
        obtain ⟨xs, -, hread⟩ := bind_eq_ok.1 hread
        cases hread
    | _ => cases hread
  rw [empty] at hv
  have plain : (Record.required "terms" (Json.listOf Json.text) :
      QueryRecord (List String)).build members = .ok [] := Record.required_build.2 ⟨_, hv, rfl⟩
  refine Record.seq_build.2 ⟨_, boost, ?_, hboost, rfl⟩
  refine Record.seq_build.2 ⟨_, field, ?_, hfield, rfl⟩
  refine Record.map_build.2 ⟨.phrase [] fuzziness, ?_, rfl⟩
  exact Record.seq_build.2 ⟨_, fuzziness, Record.map_build.2 ⟨_, plain, rfl⟩, hfuzziness, rfl⟩

theorem yields_readGeometry : Json.Yields readGeometry fun c =>
    ∀ shape relation, c = .geoShape shape relation → shape.IsFinite := by
  intro v c finite h shape relation same
  obtain ⟨members, finite, built⟩ := Record.build_of_read finite h
  obtain ⟨shape', relation', hshape, rfl⟩ := geometry_build built
  cases same
  exact Json.required_yields Geo.Shape.yields_read finite hshape

theorem isRead_of_build {children : List (String × Children)} {c : Criterion} {field : String}
    {boost : Option Float} (finite : Json.MembersFinite members)
    (selected : Kind.ofMembers members = some c.kind.rule)
    (built : (ofKind children c.kind).build members = .ok (.onField c field boost))
    (alternatives : c.kind = .multiPhrase → ∀ r, phrase.build members ≠ .ok r) : c.IsRead := by
  cases c with
  | multiPhrase terms fuzziness =>
    rintro rfl
    exact alternatives rfl _ (phrase_build_of_empty built)
  | numericRange b =>
    obtain ⟨c, f, b', hc, -, same⟩ := onField_build built
    obtain ⟨x, hx, rfl⟩ := Record.map_build.1 hc
    cases same
    obtain ⟨hmin, hmax⟩ := bounds_build hx
    exact ⟨⟨Json.optional_yields Json.yields_real finite hmin,
      Json.optional_yields Json.yields_real finite hmax⟩,
      isBound_of_anyEnd hx (Kind.anyEnd_of_numericRange selected) rfl⟩
  | termRange b =>
    obtain ⟨c, f, b', hc, -, same⟩ := onField_build built
    obtain ⟨x, hx, rfl⟩ := Record.map_build.1 hc
    cases same
    exact isBound_of_anyEnd hx (Kind.anyEnd_of_termRange selected) rfl
  | geoShape shape relation =>
    obtain ⟨c, f, b', hc, -, same⟩ := onField_build built
    cases same
    exact Json.required_yields yields_readGeometry finite hc shape relation rfl
  | _ => trivial

section Children
variable {children : List (String × Children)} {p : Query → Prop}

def Found (p : Query → Prop) (results : List (Except DecodeError Query)) : Prop :=
  ∀ r ∈ results, ∀ q, r = .ok q → q.Everywhere p

def Children.Found (p : Query → Prop) (c : Children) : Prop :=
  (∀ q, c.whole = .ok q → q.Everywhere p) ∧ QueryRecord.Found p c.items

theorem allChildren_everywhere {results : List (Except DecodeError Query)} (h : Found p results)
    {qs : List Query} (all : allChildren results = .ok qs) : Query.EverywhereIn p qs := by
  induction results generalizing qs with
  | nil =>
    cases all
    trivial
  | cons r rest ih =>
    obtain ⟨q, hq, all⟩ := bind_eq_ok.1 all
    obtain ⟨others, hothers, all⟩ := bind_eq_ok.1 all
    cases all
    obtain ⟨first, remaining⟩ := List.forall_mem_cons.1 h
    exact ⟨first q (Query.child_eq_ok.1 hq), ih remaining hothers⟩

theorem lookup_found (h : ∀ e ∈ children, e.2.Found p) (key : String) :
    ((children.lookup key).getD noChildren).Found p := by
  cases hkey : children.lookup key with
  | none =>
    constructor
    · intro q hq
      cases hq
    · intro r hr
      cases hr
  | some c =>
    obtain ⟨before, behind, rfl, -⟩ := List.lookup_eq_some_iff.1 hkey
    exact h (key, c) (by simp)

theorem clauses_everywhere (h : ∀ e ∈ children, e.2.Found p) {key : String} {qs : List Query}
    (built : (clauses children key).build members = .ok qs) : Query.EverywhereIn p qs := by
  obtain ⟨v, -, hread⟩ := Record.required_build.1 built
  cases v with
  | array items => exact allChildren_everywhere (lookup_found h key).2 hread
  | _ => cases hread

theorem slot_everywhere (h : ∀ e ∈ children, e.2.Found p) {key : String} {slot : Option Query}
    (built : (QueryRecord.slot children key).build members = .ok slot) :
    Query.EverywhereSlot p slot := by
  rcases Record.defaulted_build.1 built with ⟨-, rfl⟩ | ⟨v, -, hread⟩
  · trivial
  · cases v with
    | null =>
      cases hread
      trivial
    | _ =>
      obtain ⟨q, hq, rfl⟩ := map_eq_ok.1 hread
      exact (lookup_found h key).1 q (Query.child_eq_ok.1 hq)

end Children

end QueryRecord

namespace Query
open QueryRecord (Children)

def IsRead : Query → Prop
  | .onField c _ boost => c.IsRead ∧ ∀ x ∈ boost, x.isFinite = true
  | q => ∀ x ∈ q.boost?, x.isFinite = true

theorem decodeMembers_everywhere {members : Members} {children : List (String × Children)}
    {q : Query} (finite : Json.MembersFinite members) (found : ∀ e ∈ children, e.2.Found IsRead)
    (h : decodeMembers members children = .ok q) : q.Everywhere IsRead := by
  obtain ⟨selected, built, alternatives⟩ := build_of_decodeMembers h
  have boost : ∀ x ∈ q.boost?, x.isFinite = true :=
    Json.optional_yields Json.yields_real finite (QueryRecord.kind_of_build built).2
  cases q with
  | onField c field b =>
    exact ⟨QueryRecord.isRead_of_build finite selected built alternatives, boost⟩
  | documents | everything | nothing | queryString => exact boost
  | conjunction cs b =>
    obtain ⟨f1, b', h1, -, same⟩ := Record.seq_build.1 built
    obtain ⟨ps, hps, rfl⟩ := Record.map_build.1 h1
    cases same
    exact ⟨boost, QueryRecord.clauses_everywhere found hps⟩
  | disjunction ds min b =>
    obtain ⟨f1, b', h1, -, same⟩ := Record.seq_build.1 built
    obtain ⟨f2, n, h2, -, rfl⟩ := Record.seq_build.1 h1
    obtain ⟨ps, hps, rfl⟩ := Record.map_build.1 h2
    cases same
    exact ⟨boost, QueryRecord.clauses_everywhere found hps⟩
  | boolean must should mustNot b =>
    obtain ⟨f1, b', h1, -, same⟩ := Record.seq_build.1 built
    obtain ⟨f2, z, h2, hz, rfl⟩ := Record.seq_build.1 h1
    obtain ⟨f3, y, h3, hy, rfl⟩ := Record.seq_build.1 h2
    obtain ⟨x, hx, rfl⟩ := Record.map_build.1 h3
    cases same
    exact ⟨boost, QueryRecord.slot_everywhere found hx, QueryRecord.slot_everywhere found hy,
      QueryRecord.slot_everywhere found hz⟩

mutual

/-- By induction on the value: the children of a node are decoded from values inside it. -/
theorem decode_everywhere : ∀ (v : Json) (q : Query), v.IsFinite → decode v = .ok q →
    q.Everywhere IsRead
  | .object members, q, finite, h =>
    decodeMembers_everywhere finite (decodeChildren_found members finite) h
  | .null, q, _, h => by cases h
  | .boolean _, q, _, h => by cases h
  | .number _, q, _, h => by cases h
  | .string _, q, _, h => by cases h
  | .array _, q, _, h => by cases h

theorem decodeChildren_found : ∀ members : Members, Json.MembersFinite members →
    ∀ e ∈ decodeChildren members, e.2.Found IsRead
  | [], _ => by simp [decodeChildren]
  | (key, v) :: rest, finite => by
    rw [decodeChildren]
    exact List.forall_mem_cons.2
      ⟨⟨fun q => decode_everywhere v q finite.1, decodeItems_found v finite.1⟩,
        decodeChildren_found rest finite.2⟩

theorem decodeItems_found : ∀ v : Json, v.IsFinite → QueryRecord.Found IsRead (decodeItems v)
  | .array items, finite => decodeEach_found items finite
  | .object _, _ => by simp [decodeItems, QueryRecord.Found]
  | .null, _ => by simp [decodeItems, QueryRecord.Found]
  | .boolean _, _ => by simp [decodeItems, QueryRecord.Found]
  | .number _, _ => by simp [decodeItems, QueryRecord.Found]
  | .string _, _ => by simp [decodeItems, QueryRecord.Found]

theorem decodeEach_found : ∀ items : List Json, Json.ItemsFinite items →
    QueryRecord.Found IsRead (decodeEach items)
  | [], _ => by simp [decodeEach, QueryRecord.Found]
  | v :: rest, finite => by
    rw [decodeEach]
    exact List.forall_mem_cons.2
      ⟨fun q => decode_everywhere v q finite.1, decodeEach_found rest finite.2⟩

end

end Query

/-- The criterion has the parts that it may lack although it was decoded. -/
def Criterion.IsStable : Criterion → Prop
  | .fuzzy _ _ fuzziness => fuzziness ≠ none
  | .dateRange b _ => b.IsBound
  | .geoBox topLeft bottomRight => topLeft.IsFinite ∧ bottomRight.IsFinite
  | .geoDistance center _ => center.IsFinite
  | .geoPolygon points => ∀ p ∈ points, p.IsFinite
  | _ => True

theorem Criterion.IsRead.isStable_iff {c : Criterion} (read : c.IsRead) :
    c.IsFinite ∧ c.IsComplete ↔ c.IsStable := by
  cases c with
  | numericRange b => exact iff_of_true read trivial
  | multiPhrase terms fuzziness => exact iff_of_true ⟨trivial, read⟩ trivial
  | termRange b => exact iff_of_true ⟨trivial, read⟩ trivial
  | geoShape shape relation => exact iff_of_true ⟨read, trivial⟩ trivial
  | fuzzy | dateRange => exact ⟨fun h => h.2, fun h => ⟨trivial, h⟩⟩
  | geoBox | geoDistance | geoPolygon => exact ⟨fun h => h.1, fun h => ⟨h, trivial⟩⟩
  | _ => exact iff_of_true ⟨trivial, trivial⟩ trivial

namespace Query

/-- The node has the parts that it may lack although it was decoded. -/
def IsStable : Query → Prop
  | .onField c _ _ => c.IsStable
  | .boolean must should mustNot _ => must ≠ none ∨ should ≠ none ∨ mustNot ≠ none
  | _ => True

theorem IsRead.isStable_iff {q : Query} (read : q.IsRead) : q.IsRepresentable ↔ q.IsStable := by
  cases q with
  | onField c field boost =>
    rw [IsStable, ← read.1.isStable_iff]
    exact ⟨fun h => ⟨h.finite.1, h.complete⟩, fun h => ⟨⟨h.1, read.2⟩, h.2⟩⟩
  | boolean must should mustNot boost => exact ⟨fun h => h.complete, fun h => ⟨read, h⟩⟩
  | _ => exact iff_of_true ⟨read, trivial⟩ trivial

/-- A query that was decoded from a value is decoded from its own value again, as long as each node
that was told by a key has more there than null and each point is finite; and nothing equal to it is
decoded from its value otherwise. -/
theorem decode_reencoded {v : Json} {q : Query} (finite : v.IsFinite) (h : decode v = .ok q) :
    (q.Everywhere IsStable → decode q.value = .ok q ∧ q.same q = true) ∧
      ((∃ p, decode q.value = .ok p ∧ p.same q = true) → q.Everywhere IsStable) := by
  have read : q.Everywhere IsRead := decode_everywhere v q finite h
  constructor
  · intro stable
    have representable : q.Everywhere IsRepresentable :=
      everywhere_combine (fun _ read stable => (IsRead.isStable_iff read).2 stable) q read stable
    exact (returns_iff q q).2 ⟨rfl, representable⟩
  · rintro ⟨p, hp, same⟩
    obtain ⟨-, representable⟩ := (returns_iff q p).1 ⟨hp, same⟩
    exact everywhere_combine
      (fun _ read representable => (IsRead.isStable_iff read).1 representable) q read representable

/-- A term within two edits and no date from a day on. -/
theorem decode_reencoded_nested :
    let v := Json.object
      [("must", .object
          [("fuzziness", .number (.integer 2 (by decide))), ("term", .string "rust")]),
        ("must_not", .object [("end", .null), ("start", .string "2024-01-01")])]
    let q := boolean (some (onField (.fuzzy "rust" none (some (.edits 2))) "" none)) none
      (some (onField (.dateRange ⟨some "2024-01-01", none, none, none⟩ none) "" none)) none
    decode v = .ok q ∧ decode q.value = .ok q ∧ q.same q = true := by
  intro v q
  have decoded : decode v = .ok q := rfl
  have finite : v.IsFinite := ⟨⟨trivial, trivial, trivial⟩, ⟨trivial, trivial, trivial⟩, trivial⟩
  have fuzzy : (some (Fuzziness.edits 2)) ≠ none := by simp
  have start : (some "2024-01-01") ≠ none := by simp
  have slot : (some (onField (.fuzzy "rust" none (some (.edits 2))) "" none)) ≠ none := by simp
  have stable : q.Everywhere IsStable := ⟨.inl slot, fuzzy, trivial, .inl start⟩
  exact ⟨decoded, (decode_reencoded finite decoded).1 stable⟩

/-- A fuzzy query that is told by a fuzziness of null comes back as a plain term. -/
theorem decode_reencoded_loses_fuzziness :
    let v := Json.object [("fuzziness", .null), ("term", .string "rust")]
    let q := onField (.fuzzy "rust" none none) "" none
    v.IsFinite ∧ decode v = .ok q ∧ ¬ ∃ p, decode q.value = .ok p ∧ p.same q = true := by
  intro v q
  refine ⟨⟨trivial, trivial, trivial⟩, rfl, ?_⟩
  rintro ⟨p, hp, same⟩
  have term : decode q.value = .ok (onField (.term "rust") "" none) := rfl
  rw [term] at hp
  cases hp
  cases same

end Query

end SearchQuery
