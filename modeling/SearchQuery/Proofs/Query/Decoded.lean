import SearchQuery.Proofs.Json.Records
import SearchQuery.Query.Decode

/-!
# What decoding a query comes to

A query of a kind is decoded when its keys select the kind and the record of the kind can be built
(`Query.kind_of_decodeMembers`).  A list of terms selects phrases of both forms, of which the plain
one goes first.
-/

set_option autoImplicit false
namespace SearchQuery
open Json (Record)

def Kind.rule : Kind → Kind
  | multiPhrase => phrase
  | kind => kind

namespace Kind

theorem rule_eq_self {kind : Kind} (h : kind ≠ multiPhrase) : kind.rule = kind := by
  cases kind <;> first | rfl | exact absurd rfl h

theorem ite_some_eq_some {p : Prop} [Decidable p] {k l : Kind} {rest : Option Kind} :
    (if p then some k else rest) = some l ↔ p ∧ k = l ∨ ¬ p ∧ rest = some l := by
  by_cases h : p
  · simp [h]
  · simp [h]

variable {members : Members}

theorem ofMembers_ne_multiPhrase : ofMembers members ≠ some multiPhrase := by
  unfold ofMembers
  simp only [ne_eq, ite_some_eq_some, reduceCtorEq, and_false, or_false, not_false_eq_true]

theorem anyEnd_of_numericRange (h : ofMembers members = some numericRange) :
    anyEnd Json.isNumber members = true := by
  unfold ofMembers at h
  simp only [ite_some_eq_some, reduceCtorEq, and_false, and_true, or_false, false_or] at h
  simp_all

theorem anyEnd_of_termRange (h : ofMembers members = some termRange) :
    anyEnd Json.isString members = true := by
  unfold ofMembers at h
  simp only [ite_some_eq_some, reduceCtorEq, and_false, and_true, or_false, false_or] at h
  simp_all

end Kind

namespace QueryRecord
variable {members : Members} {children : List (String × Children)}

theorem onField_build {r : QueryRecord Criterion} {q : Query}
    (h : (onField r).build members = .ok q) :
    ∃ c f b, r.build members = .ok c ∧ boost.build members = .ok b ∧ q = .onField c f b := by
  obtain ⟨f1, b, h1, hb, rfl⟩ := Record.seq_build.1 h
  obtain ⟨f2, f, h2, -, rfl⟩ := Record.seq_build.1 h1
  obtain ⟨c, hc, rfl⟩ := Record.map_build.1 h2
  exact ⟨c, f, b, hc, hb, rfl⟩

theorem geometry_build {c : Criterion} (h : geometry.build members = .ok c) :
    ∃ shape relation, (Record.required "shape" Geo.Shape.read : QueryRecord _).build members =
      .ok shape ∧ c = .geoShape shape relation := by
  obtain ⟨f1, relation, h1, -, rfl⟩ := Record.seq_build.1 h
  obtain ⟨shape, hshape, rfl⟩ := Record.map_build.1 h1
  exact ⟨shape, relation, hshape, rfl⟩

theorem readGeometry_build {v : Json} {c : Criterion} (h : readGeometry v = .ok c) :
    ∃ members, geometry.build members = .ok c := by
  cases v with
  | object members => exact ⟨members, Record.build_of_readMembers h⟩
  | array items =>
    obtain ⟨y, hy, h⟩ := bind_eq_ok.1 h
    split at h
    · cases h
    · cases h
      exact ⟨_, Record.build_of_readItems hy⟩
  | _ => cases h

theorem kind_of_build {kind : Kind} {q : Query}
    (h : (ofKind children kind).build members = .ok q) :
    q.kind = kind ∧ boost.build members = .ok q.boost? := by
  cases kind with
  | term | stem | regexp | wildcard | flag | numericRange | termRange | geoPolygon | network =>
    obtain ⟨c, f, b, hc, hb, rfl⟩ := onField_build h
    obtain ⟨x, -, rfl⟩ := Record.map_build.1 hc
    exact ⟨rfl, hb⟩
  | phrase | multiPhrase | dateRange | geoBox | geoDistance =>
    obtain ⟨c, f, b, hc, hb, rfl⟩ := onField_build h
    obtain ⟨f1, y, h1, -, rfl⟩ := Record.seq_build.1 hc
    obtain ⟨x, -, rfl⟩ := Record.map_build.1 h1
    exact ⟨rfl, hb⟩
  | fuzzy | matchPhrase =>
    obtain ⟨c, f, b, hc, hb, rfl⟩ := onField_build h
    obtain ⟨f1, y, h1, -, rfl⟩ := Record.seq_build.1 hc
    obtain ⟨f2, z, h2, -, rfl⟩ := Record.seq_build.1 h1
    obtain ⟨x, -, rfl⟩ := Record.map_build.1 h2
    exact ⟨rfl, hb⟩
  | match_ =>
    obtain ⟨c, f, b, hc, hb, rfl⟩ := onField_build h
    obtain ⟨f1, y, h1, -, rfl⟩ := Record.seq_build.1 hc
    obtain ⟨f2, z, h2, -, rfl⟩ := Record.seq_build.1 h1
    obtain ⟨f3, w, h3, -, rfl⟩ := Record.seq_build.1 h2
    obtain ⟨f4, v, h4, -, rfl⟩ := Record.seq_build.1 h3
    obtain ⟨x, -, rfl⟩ := Record.map_build.1 h4
    exact ⟨rfl, hb⟩
  | geoShape =>
    obtain ⟨c, f, b, hc, hb, rfl⟩ := onField_build h
    obtain ⟨v, -, hv⟩ := Record.required_build.1 hc
    obtain ⟨_, built⟩ := readGeometry_build hv
    obtain ⟨shape, relation, -, rfl⟩ := geometry_build built
    exact ⟨rfl, hb⟩
  | everything | nothing | documents | queryString | conjunction =>
    obtain ⟨f1, b, h1, hb, rfl⟩ := Record.seq_build.1 h
    obtain ⟨x, -, rfl⟩ := Record.map_build.1 h1
    exact ⟨rfl, hb⟩
  | disjunction =>
    obtain ⟨f1, b, h1, hb, rfl⟩ := Record.seq_build.1 h
    obtain ⟨f2, n, h2, -, rfl⟩ := Record.seq_build.1 h1
    obtain ⟨x, -, rfl⟩ := Record.map_build.1 h2
    exact ⟨rfl, hb⟩
  | boolean =>
    obtain ⟨f1, b, h1, hb, rfl⟩ := Record.seq_build.1 h
    obtain ⟨f2, n, h2, -, rfl⟩ := Record.seq_build.1 h1
    obtain ⟨f3, s, h3, -, rfl⟩ := Record.seq_build.1 h2
    obtain ⟨x, -, rfl⟩ := Record.map_build.1 h3
    exact ⟨rfl, hb⟩

theorem ofKind_combine {P : ∀ {α : Type}, QueryRecord α → Prop}
    (required : ∀ {α : Type} (key : String) (read : QueryReader α), P (Record.required key read))
    (defaulted : ∀ {α : Type} (key : String) (read : QueryReader α) (default : α),
      P (Record.defaulted key read default))
    (map : ∀ {α β : Type} (f : α → β) {r : QueryRecord α}, P r → P (f <$> r))
    (seq : ∀ {α β : Type} {f : QueryRecord (α → β)} {r : QueryRecord α}, P f → P r → P (f <*> r))
    (kind : Kind) : P (ofKind children kind) := by
  have optional {α : Type} (key : String) (read : QueryReader α) : P (Record.optional key read) :=
    defaulted key _ none
  have ends {α : Type} (read : QueryReader α) (lower upper : String) :
      P (bounds read lower upper) :=
    seq (seq (seq (map _ (optional _ _)) (optional _ _)) (optional _ _)) (optional _ _)
  have onField {r : QueryRecord Criterion} (h : P r) : P (onField r) :=
    seq (seq (map _ h) (defaulted _ _ _)) (optional _ _)
  cases kind with
  | term | stem | regexp | wildcard | flag | geoPolygon | network =>
    exact onField (map _ (required _ _))
  | numericRange | termRange => exact onField (map _ (ends _ _ _))
  | geoShape => exact onField (required _ _)
  | phrase | multiPhrase => exact onField (seq (map _ (required _ _)) (optional _ _))
  | dateRange => exact onField (seq (map _ (ends _ _ _)) (optional _ _))
  | geoBox | geoDistance => exact onField (seq (map _ (required _ _)) (required _ _))
  | fuzzy | matchPhrase =>
    exact onField (seq (seq (map _ (required _ _)) (optional _ _)) (optional _ _))
  | match_ =>
    exact onField (seq (seq (seq (seq (map _ (required _ _)) (optional _ _)) (optional _ _))
      (optional _ _)) (optional _ _))
  | everything | nothing => exact seq (map _ (defaulted _ _ _)) (optional _ _)
  | documents | queryString | conjunction => exact seq (map _ (required _ _)) (optional _ _)
  | disjunction => exact seq (seq (map _ (required _ _)) (optional _ _)) (optional _ _)
  | boolean =>
    exact seq (seq (seq (map _ (optional _ _)) (optional _ _)) (optional _ _)) (optional _ _)

theorem isSound_ofKind (kind : Kind) : (ofKind children kind).IsSound :=
  ofKind_combine Record.isSound_required Record.isSound_defaulted Record.isSound_map
    Record.isSound_seq kind

end QueryRecord

namespace Query
open QueryRecord (Children ofKind)
variable {members : Members} {children : List (String × Children)} {q : Query}

theorem decodeKind_eq_ok {kind : Kind} :
    decodeKind kind members children = .ok q ↔
      (ofKind children kind).readMembers members = .ok q := by
  unfold decodeKind
  cases (ofKind children kind).readMembers members with
  | error e => simp
  | ok r => simp

theorem decodeMembers_of_kind {kind : Kind} (selected : Kind.ofMembers members = some kind)
    (plain : kind ≠ .phrase) :
    decodeMembers members children = decodeKind kind members children := by
  unfold decodeMembers
  rw [selected]
  cases kind <;> first | rfl | exact absurd rfl plain

theorem decodeMembers_of_phrase (selected : Kind.ofMembers members = some .phrase) :
    decodeMembers members children =
      match decodeKind .phrase members children with
      | .ok q => .ok q
      | .error _ => decodeKind .multiPhrase members children := by
  cases flat : decodeKind .phrase members children with
  | ok q => simp only [decodeMembers, selected, flat]
  | error e => simp only [decodeMembers, selected, flat]

/-- What is decoded has the kind that the keys select, and is built by the record of that kind. -/
theorem build_of_decodeMembers (h : decodeMembers members children = .ok q) :
    Kind.ofMembers members = some q.kind.rule ∧ (ofKind children q.kind).build members = .ok q ∧
      (q.kind = .multiPhrase → ∀ r, QueryRecord.phrase.build members ≠ .ok r) := by
  cases selected : Kind.ofMembers members with
  | none =>
    unfold decodeMembers at h
    rw [selected] at h
    cases h
  | some kind =>
    have possible : kind ≠ .multiPhrase := by
      rintro rfl
      exact Kind.ofMembers_ne_multiPhrase selected
    by_cases list : kind = .phrase
    · subst list
      rw [decodeMembers_of_phrase selected] at h
      split at h
      · rename_i r flat
        cases h
        have built := Record.build_of_readMembers (decodeKind_eq_ok.1 flat)
        have kind := (QueryRecord.kind_of_build built).1
        rw [kind]
        exact ⟨rfl, built, by simp⟩
      · rename_i fault flat
        have read := decodeKind_eq_ok.1 h
        have built := Record.build_of_readMembers read
        have kind := (QueryRecord.kind_of_build built).1
        rw [kind]
        refine ⟨rfl, built, fun _ r hr => ?_⟩
        have again : decodeKind .phrase members children = .ok r :=
          decodeKind_eq_ok.2 (Record.readMembers_of_build (r := ofKind children .multiPhrase)
            (s := ofKind children .phrase) rfl (QueryRecord.isSound_ofKind .phrase)
            read hr)
        rw [flat] at again
        cases again
    · rw [decodeMembers_of_kind selected list] at h
      have built := Record.build_of_readMembers (decodeKind_eq_ok.1 h)
      have kind := (QueryRecord.kind_of_build built).1
      rw [kind, Kind.rule_eq_self possible]
      exact ⟨rfl, built, fun multi => absurd multi possible⟩

theorem decodeMembers_of_build (sorted : Json.Sorted members) {kind : Kind}
    (selected : Kind.ofMembers members = some kind.rule)
    (built : (ofKind children kind).build members = .ok q)
    (notFlat : kind = .multiPhrase → ∀ r, QueryRecord.phrase.build members ≠ .ok r) :
    decodeMembers members children = .ok q := by
  have read : decodeKind kind members children = .ok q :=
    decodeKind_eq_ok.2 ((Record.readMembers_eq_ok (QueryRecord.isSound_ofKind kind) sorted).2 built)
  by_cases multi : kind = .multiPhrase
  · subst multi
    rw [decodeMembers_of_phrase selected]
    split
    · rename_i r flat
      exact absurd (Record.build_of_readMembers (decodeKind_eq_ok.1 flat)) (notFlat rfl r)
    · exact read
  · rw [Kind.rule_eq_self multi] at selected
    by_cases list : kind = .phrase
    · subst list
      rw [decodeMembers_of_phrase selected, read]
    · rw [decodeMembers_of_kind selected list]
      exact read

end Query

end SearchQuery
