import SearchQuery.Proofs.Query.Decoded

/-!
# How a query is told by its keys

An ordered list of rules says of which kind a query is; the first rule that holds of its members
decides (`Selects`).  Decoding follows the rules: a value of a kind is a query of that kind or is
refused as one, and only a list of terms has a second kind to be.
-/

set_option autoImplicit false
namespace SearchQuery

def Json.Present (members : Members) (key : String) : Prop :=
  ∃ v, Json.lookup key members = some v

/-- A condition on the members of an object, and the kind that is told by it. -/
structure Rule where
  kind : Kind
  Holds : Members → Prop

namespace Rule
open Json (Present)

def key (kind : Kind) (key : String) : Rule := ⟨kind, fun members => Present members key⟩

def anyOf (kind : Kind) (keys : List String) : Rule :=
  ⟨kind, fun members => ∃ key ∈ keys, Present members key⟩

def allOf (kind : Kind) (keys : List String) : Rule :=
  ⟨kind, fun members => ∀ key ∈ keys, Present members key⟩

def typed (kind : Kind) (isType : Json → Bool) (keys : List String) : Rule :=
  ⟨kind, fun members => ∃ key ∈ keys, ∃ v, Json.lookup key members = some v ∧ isType v = true⟩

def keyWithout (kind : Kind) (key : String) (others : List String) : Rule :=
  ⟨kind, fun members => Present members key ∧ ∀ other ∈ others, ¬ Present members other⟩

/-- The rules in their order.  Texts and phrases may have a fuzziness of their own. -/
def ordered : List Rule :=
  [keyWithout .fuzzy "fuzziness" ["match", "match_phrase", "terms"],
   key .match_ "match",
   key .matchPhrase "match_phrase",
   key .phrase "terms",
   key .term "term",
   anyOf .boolean ["must", "should", "must_not"],
   key .conjunction "conjuncts",
   key .disjunction "disjuncts",
   key .queryString "query",
   typed .numericRange Json.isNumber ["min", "max"],
   typed .termRange Json.isString ["min", "max"],
   anyOf .dateRange ["start", "end"],
   key .stem "prefix",
   key .regexp "regexp",
   key .wildcard "wildcard",
   key .everything "match_all",
   key .nothing "match_none",
   key .documents "ids",
   key .flag "bool",
   allOf .geoBox ["top_left", "bottom_right"],
   key .geoDistance "distance",
   key .geoPolygon "polygon_points",
   key .geoShape "geometry",
   key .network "cidr"]

end Rule

inductive Selects (members : Members) : List Rule → Option Kind → Prop
  | none : Selects members [] none
  | first {rule : Rule} {rules : List Rule} (h : rule.Holds members) :
    Selects members (rule :: rules) (some rule.kind)
  | later {rule : Rule} {rules : List Rule} {kind : Option Kind} (h : ¬ rule.Holds members)
      (rest : Selects members rules kind) : Selects members (rule :: rules) kind

namespace Selects
variable {members : Members} {rules : List Rule}

theorem unique {k l : Option Kind} (hk : Selects members rules k) (hl : Selects members rules l) :
    k = l := by
  induction hk with
  | none =>
    cases hl
    rfl
  | first h =>
    cases hl with
    | first => rfl
    | later other => exact absurd h other
  | later h rest ih =>
    cases hl with
    | first other => exact absurd other h
    | later other more => exact ih more

theorem ite {rule : Rule} {p : Prop} [Decidable p] {next : Option Kind}
    (test : rule.Holds members ↔ p) (rest : Selects members rules next) :
    Selects members (rule :: rules) (if p then some rule.kind else next) := by
  by_cases h : p
  · rw [if_pos h]
    exact .first (test.2 h)
  · rw [if_neg h]
    exact .later (fun holds => h (test.1 holds)) rest

end Selects

section Tests
variable (members : Members)

theorem Json.present_iff {key : String} :
    Json.Present members key ↔ Json.hasKey members key = true :=
  Option.isSome_iff_exists.symm

theorem Rule.key_holds (kind : Kind) (key : String) :
    (Rule.key kind key).Holds members ↔ Json.hasKey members key = true :=
  Json.present_iff members

theorem Rule.typed_holds (kind : Kind) (isType : Json → Bool) :
    (Rule.typed kind isType ["min", "max"]).Holds members ↔ anyEnd isType members = true := by
  simp [Rule.typed, anyEnd, Option.any_eq_true]

theorem Rule.anyOf_holds (kind : Kind) (keys : List String) :
    (Rule.anyOf kind keys).Holds members ↔ keys.any (Json.hasKey members) = true := by
  simp [Rule.anyOf, Json.present_iff]

theorem Rule.allOf_holds (kind : Kind) (keys : List String) :
    (Rule.allOf kind keys).Holds members ↔ keys.all (Json.hasKey members) = true := by
  simp [Rule.allOf, Json.present_iff]

theorem Rule.keyWithout_holds (kind : Kind) (key : String) (others : List String) :
    (Rule.keyWithout kind key others).Holds members ↔
      (Json.hasKey members key && others.all fun other => !Json.hasKey members other) = true := by
  simp [Rule.keyWithout, Json.present_iff]

theorem selects_ofMembers : Selects members Rule.ordered (Kind.ofMembers members) := by
  have key := Rule.key_holds members
  unfold Kind.ofMembers
  refine .ite ((Rule.keyWithout_holds members ..).trans (by simp [Bool.and_assoc])) ?_
  iterate 4 refine .ite (key ..) ?_
  refine .ite ((Rule.anyOf_holds members ..).trans (by simp [or_assoc])) ?_
  iterate 3 refine .ite (key ..) ?_
  refine .ite (Rule.typed_holds members ..) ?_
  refine .ite (Rule.typed_holds members ..) ?_
  refine .ite ((Rule.anyOf_holds members ..).trans (by simp)) ?_
  iterate 7 refine .ite (key ..) ?_
  refine .ite ((Rule.allOf_holds members ..).trans (by simp)) ?_
  iterate 4 refine .ite (key ..) ?_
  exact .none

theorem ofMembers_eq_iff {members : Members} {kind : Option Kind} :
    Kind.ofMembers members = kind ↔ Selects members Rule.ordered kind := by
  constructor
  · rintro rfl
    exact selects_ofMembers members
  · exact (selects_ofMembers members).unique

end Tests

namespace Query
open QueryRecord (ofKind)

def readAs (kind : Kind) (members : Members) : Except (Json.Mismatch Refusal) Query :=
  (ofKind (decodeChildren members) kind).readMembers members

/-- What the rules allow a value to be decoded to. -/
inductive Outcome : Json → Except DecodeError Query → Prop
  | notAnObject {v : Json} (h : ∀ members, v ≠ .object members) :
    Outcome v (.error (.notAnObject v.found))
  | unknownKind {members : Members} {keys : List String} (h : Selects members Rule.ordered none)
      (same : keys.Perm (members.map (·.1))) (sorted : keys.Pairwise (· ≤ ·)) :
    Outcome (.object members) (.error (.unknownKind keys))
  | query {members : Members} {kind : Kind} {q : Query}
      (h : Selects members Rule.ordered (some kind)) (read : readAs kind members = .ok q)
      (same : q.kind = kind) : Outcome (.object members) (.ok q)
  | shape {members : Members} {kind : Kind} {e : Json.Mismatch Refusal}
      (h : Selects members Rule.ordered (some kind)) (single : kind ≠ .phrase)
      (refused : readAs kind members = .error e) :
    Outcome (.object members) (.error (.shape kind e))
  | alternatives {members : Members} {e : Json.Mismatch Refusal} {q : Query}
      (h : Selects members Rule.ordered (some .phrase))
      (refused : readAs .phrase members = .error e)
      (read : readAs .multiPhrase members = .ok q) (same : q.kind = .multiPhrase) :
    Outcome (.object members) (.ok q)
  | noTerms {members : Members} {e e' : Json.Mismatch Refusal}
      (h : Selects members Rule.ordered (some .phrase))
      (refused : readAs .phrase members = .error e)
      (refused' : readAs .multiPhrase members = .error e') :
    Outcome (.object members) (.error (.shape .multiPhrase e'))

variable {members : Members}

theorem kind_of_readAs {kind : Kind} {q : Query} (h : readAs kind members = .ok q) :
    q.kind = kind :=
  (QueryRecord.kind_of_build (Json.Record.build_of_readMembers h)).1

theorem decodeKind_eq (kind : Kind) :
    decodeKind kind members (decodeChildren members) =
      (readAs kind members).mapError (.shape kind) := by
  unfold decodeKind
  change _ = Except.mapError _ (Json.Record.readMembers _ _)
  cases (ofKind (decodeChildren members) kind).readMembers members <;> rfl

theorem sortedKeys_unique {keys keys' : List String} (h : keys.Perm keys')
    (sorted : keys.Pairwise (· ≤ ·)) (sorted' : keys'.Pairwise (· ≤ ·)) : keys = keys' :=
  h.eq_of_pairwise (fun _ _ _ _ => String.le_antisymm) sorted sorted'

theorem sortedKeys_pairwise (keys : List String) :
    (keys.mergeSort fun a b => decide (a ≤ b)).Pairwise (· ≤ ·) := by
  have sorted := @List.pairwise_mergeSort _ (fun a b : String => decide (a ≤ b))
    (fun a b c hab hbc => by
      rw [decide_eq_true_iff] at hab hbc ⊢
      exact String.le_trans hab hbc)
    (fun a b => by
      rw [Bool.or_eq_true, decide_eq_true_iff, decide_eq_true_iff]
      exact String.le_total a b) keys
  exact sorted.imp of_decide_eq_true

theorem decode_of_unknown (h : Selects members Rule.ordered none) :
    decode (.object members) =
      .error (.unknownKind ((members.map (·.1)).mergeSort fun a b => decide (a ≤ b))) := by
  rw [decode, decodeMembers, ofMembers_eq_iff.2 h]

theorem decode_of_single {kind : Kind} (h : Selects members Rule.ordered (some kind))
    (single : kind ≠ .phrase) :
    decode (.object members) = (readAs kind members).mapError (.shape kind) := by
  rw [decode, decodeMembers_of_kind (ofMembers_eq_iff.2 h) single, decodeKind_eq]

theorem decode_of_terms (h : Selects members Rule.ordered (some .phrase)) :
    decode (.object members) =
      match readAs .phrase members with
      | .ok q => .ok q
      | .error _ => (readAs .multiPhrase members).mapError (.shape .multiPhrase) := by
  rw [decode, decodeMembers_of_phrase (ofMembers_eq_iff.2 h), decodeKind_eq, decodeKind_eq]
  cases readAs .phrase members <;> rfl

theorem outcome_decode (v : Json) : Outcome v (decode v) := by
  cases v with
  | object members =>
    have selects := selects_ofMembers members
    cases selected : Kind.ofMembers members with
    | none =>
      rw [selected] at selects
      rw [decode_of_unknown selects]
      exact .unknownKind selects (List.mergeSort_perm ..) (sortedKeys_pairwise _)
    | some kind =>
      rw [selected] at selects
      by_cases list : kind = .phrase
      · subst list
        rw [decode_of_terms selects]
        cases flat : readAs .phrase members with
        | ok q => exact .query selects flat (kind_of_readAs flat)
        | error e =>
          cases nested : readAs .multiPhrase members with
          | ok q => exact .alternatives selects flat nested (kind_of_readAs nested)
          | error e' => exact .noTerms selects flat nested
      · rw [decode_of_single selects list]
        cases read : readAs kind members with
        | ok q => exact .query selects read (kind_of_readAs read)
        | error e => exact .shape selects list read
  | _ =>
    rw [decode]
    · exact .notAnObject (by simp)
    · simp

theorem decode_of_outcome {v : Json} {r : Except DecodeError Query} (h : Outcome v r) :
    decode v = r := by
  cases h with
  | notAnObject other =>
    rw [decode]
    exact other
  | unknownKind h same sorted =>
    rw [decode_of_unknown h,
      sortedKeys_unique ((List.mergeSort_perm ..).trans same.symm) (sortedKeys_pairwise _) sorted]
  | @query members kind q h read same =>
    by_cases list : kind = .phrase
    · subst list
      rw [decode_of_terms h, read]
    · rw [decode_of_single h list, read]
      rfl
  | shape h single refused =>
    rw [decode_of_single h single, refused]
    rfl
  | alternatives h refused read same =>
    rw [decode_of_terms h, refused, read]
    rfl
  | noTerms h refused refused' =>
    rw [decode_of_terms h, refused, refused']
    rfl

/-- A value is decoded to what the rules allow, and to nothing else. -/
theorem decode_follows_rules (v : Json) (r : Except DecodeError Query) :
    decode v = r ↔ Outcome v r := by
  constructor
  · rintro rfl
    exact outcome_decode v
  · exact decode_of_outcome

/-- Terms go before a term, and lists of alternatives are no plain phrase. -/
example : decode (.object [("term", .string "c"),
    ("terms", .array [.array [.string "a"], .array [.string "b"]])]) =
      .ok (.onField (.multiPhrase [["a"], ["b"]] none) "" none) :=
  rfl

end Query

end SearchQuery
