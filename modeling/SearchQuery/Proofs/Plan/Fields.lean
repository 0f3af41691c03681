import SearchQuery.Proofs.Plan.Origins

/-!
# Fields in plans

A condition on numbers, dates, points, shapes or addresses names a field that holds such values, or
one that a dynamic mapping does not know (`Query.compile_typed`).  Conditions on terms name any
field: a schema that refuses unmapped fields refuses them only to queries for typed values, so a
plan may name an unmapped field (`Query.compile_strict`).
-/

set_option autoImplicit false
namespace SearchQuery

/-- The kind of query that asks for a condition on typed values, and the type of the values. -/
def Condition.typed? : Condition → Option (Kind × FieldType)
  | .numericRange .. => some (.numericRange, .numeric)
  | .dateRange .. => some (.dateRange, .dateTime)
  | .geoBox .. => some (.geoBox, .geoPoint)
  | .geoDistance .. => some (.geoDistance, .geoPoint)
  | .geoPolygon .. => some (.geoPolygon, .geoPoint)
  | .geoShape .. => some (.geoShape, .geoShape)
  | .network .. => some (.network, .ip)
  | _ => none

theorem Condition.field?_of_typed {d : Condition} {kind : Kind} {type : FieldType}
    (typed : d.typed? = some (kind, type)) : d.field? ≠ none := by
  cases d with
  | numericRange | dateRange | geoBox | geoDistance | geoPolygon | geoShape | network =>
    exact Option.some_ne_none _
  | _ => cases typed

/-- The type of the values that a criterion is about; the others are about terms. -/
def Criterion.type? : Criterion → Option FieldType
  | .flag _ => some .boolean
  | .numericRange _ => some .numeric
  | .dateRange .. => some .dateTime
  | .geoBox .. => some .geoPoint
  | .geoDistance .. => some .geoPoint
  | .geoPolygon _ => some .geoPoint
  | .geoShape .. => some .geoShape
  | .network _ => some .ip
  | _ => none

/-- The field holds values of the type, or is not mapped in a dynamic mapping. -/
def Mapping.Admits (m : Mapping) (field : String) (type : FieldType) : Prop :=
  m.fieldType field = some type ∨ m.fieldType field = none ∧ m.isDynamic = true

namespace Target
variable {t : Target} {kind : Kind} {field : String} {type : FieldType}

theorem checkField_eq_ok : t.checkField kind field type = .ok () ↔ t.mapping.Admits field type := by
  unfold checkField Mapping.Admits
  cases t.mapping.fieldType field with
  | some actual =>
    by_cases same : actual = type
    · simp [same]
    · simp [same]
  | none => cases t.mapping.isDynamic <;> simp

theorem checkField_unmapped (unmapped : t.mapping.fieldType field = none)
    (fixed : t.mapping.isDynamic = false) :
    t.checkField kind field type = .error (.unknownField field) := by
  rw [checkField, unmapped, fixed]
  rfl

end Target

inductive Plan.Gathers (P : Condition → Prop) : Plan → Prop
  | single {d : Condition} {boost : Float} {options : Options} (h : P d) :
    Gathers P (.leaf d boost options)
  | any {ps : List Plan} {min : Nat} {boost : Float} {options : Options} (some : ps ≠ [])
      (h : ∀ p ∈ ps, ∃ d b o, p = .leaf d b o ∧ P d) : Gathers P (.disjunction ps min boost options)
  | all {ps : List Plan} {boost : Float} {options : Options} (some : ps ≠ [])
      (h : ∀ p ∈ ps, ∃ d b o, p = .leaf d b o ∧ P d) : Gathers P (.conjunction ps boost options)

namespace Plan.Gathers
variable {P : Condition → Prop} {p : Plan}

theorem condition (h : p.Gathers P) {n : Plan} {d : Condition} (node : p.HasNode n)
    (leaf : n.condition? = some d) : P d := by
  have below {ps : List Plan} (each : ∀ p ∈ ps, ∃ d b o, p = .leaf d b o ∧ P d) {r : Plan}
      (mem : r ∈ ps) (node : r.HasNode n) : P d := by
    obtain ⟨d', b, o, rfl, holds⟩ := each r mem
    rw [hasNode_leaf node] at leaf
    cases leaf
    exact holds
  cases h with
  | single holds =>
    rw [hasNode_leaf node] at leaf
    cases leaf
    exact holds
  | any _ each | all _ each =>
    cases node with
    | root => cases leaf
    | inside child node => exact below each child node

theorem exists_condition (h : p.Gathers P) : ∃ n d, p.HasNode n ∧ n.condition? = some d ∧ P d := by
  cases h with
  | single holds => exact ⟨_, _, .root _, rfl, holds⟩
  | any some each | all some each =>
    obtain ⟨r, mem⟩ := List.exists_mem_of_ne_nil _ some
    obtain ⟨d, b, o, rfl, holds⟩ := each r mem
    exact ⟨_, d, .inside mem (.root _), rfl, holds⟩

end Plan.Gathers

def Condition.IsOfTerms (field : String) (d : Condition) : Prop :=
  d.field? = some field ∧ d.typed? = none

/-- The plans that a criterion may have on a field: nothing, conditions on terms of the field, or a
condition on its values.  Whenever there is a type, the field admits it. -/
inductive Criterion.PlansOn (t : Target) (field : String) (boost : Option Float) (c : Criterion) :
    Plan → Prop
  | nothing (untyped : c.type? = none) : PlansOn t field boost c (.nothing t.options)
  | terms {p : Plan} (admitted : ∀ type ∈ c.type?, t.mapping.Admits field type)
      (h : p.Gathers (Condition.IsOfTerms field)) : PlansOn t field boost c p
  | values {d : Condition} {type : FieldType} (typed : c.type? = some type)
      (about : d.field? = some field) (same : d.typed? = some (c.kind, type))
      (admitted : t.mapping.Admits field type) :
    PlansOn t field boost c (.ofCondition d boost t.options)

section Criteria
variable {t : Target} {field : String} {boost : Option Float}

theorem termCondition_isOfTerms (prefixLength : Nat) (fuzziness : Fuzziness) (word : String) :
    (termCondition t field prefixLength fuzziness word).IsOfTerms field := by
  unfold termCondition
  dsimp only
  split
  · exact ⟨rfl, rfl⟩
  · exact ⟨rfl, rfl⟩

theorem textPlan_cases (t : Target) (field : String) (prefixLength : Nat) (fuzziness : Fuzziness)
    (operator : Operator) (boost : Option Float) (tokens : List Token) :
    textPlan t field prefixLength fuzziness operator boost tokens = .nothing t.options ∨
      (textPlan t field prefixLength fuzziness operator boost tokens).Gathers
        (Condition.IsOfTerms field) := by
  have each (tokens : List Token) : ∀ p ∈ tokens.map fun token => Plan.ofCondition
      (termCondition t field prefixLength fuzziness token.term) none t.options,
      ∃ d b o, p = .leaf d b o ∧ d.IsOfTerms field :=
    List.forall_mem_map.2 fun _ _ => ⟨_, _, _, rfl, termCondition_isOfTerms ..⟩
  cases tokens with
  | nil => exact .inl rfl
  | cons token rest =>
    cases rest with
    | nil => exact .inr (.single (termCondition_isOfTerms ..))
    | cons _ _ =>
      cases operator with
      | or => exact .inr (.any (List.cons_ne_nil _ _) (each _))
      | and => exact .inr (.all (List.cons_ne_nil _ _) (each _))

namespace Criterion
variable {c : Criterion}

theorem PlansOn.ofTerms {d : Condition} (untyped : c.type? = none) (h : d.IsOfTerms field) :
    c.PlansOn t field boost (.ofCondition d boost t.options) := by
  refine .terms ?_ (.single h)
  rw [untyped]
  intro type none
  cases none

theorem PlansOn.chosen {terms : List String} (untyped : c.type? = none) :
    c.PlansOn t field boost (.anyTerm field terms boost t.options) := by
  unfold Plan.anyTerm
  split
  · exact .nothing untyped
  · exact .ofTerms untyped ⟨rfl, rfl⟩

theorem lower_plansOn {p : Plan} (h : c.lower t field boost = .ok p) :
    c.PlansOn t field boost p := by
  cases c with
  | term word =>
    cases h
    exact .ofTerms rfl ⟨rfl, rfl⟩
  | stem start =>
    cases h
    exact .chosen rfl
  | regexp | wildcard | termRange =>
    obtain ⟨r, -, h⟩ := bind_eq_ok.1 h
    cases h
    exact .chosen rfl
  | fuzzy word prefixLength fuzziness =>
    obtain ⟨-, -, h⟩ := bind_eq_ok.1 h
    dsimp only at h
    split at h
    · cases h
      exact .ofTerms rfl ⟨rfl, rfl⟩
    · cases h
      exact .chosen rfl
  | text words analyzer prefixLength fuzziness operator =>
    obtain ⟨-, -, h⟩ := bind_eq_ok.1 h
    obtain ⟨analyze, -, h⟩ := bind_eq_ok.1 h
    cases h
    rcases textPlan_cases t field (prefixLength.getD 0).toNat (fuzzinessOfText fuzziness)
        (operator.getD .or) boost (analyze words) with same | gathers
    · rw [same]
      exact .nothing rfl
    · exact .terms (by rintro type ⟨⟩) gathers
  | textPhrase words analyzer fuzziness =>
    obtain ⟨-, -, h⟩ := bind_eq_ok.1 h
    obtain ⟨analyze, -, h⟩ := bind_eq_ok.1 h
    dsimp only at h
    split at h
    · cases h
      exact .nothing rfl
    · cases h
      exact .ofTerms rfl ⟨rfl, rfl⟩
  | phrase terms fuzziness | multiPhrase terms fuzziness =>
    obtain ⟨-, -, h⟩ := bind_eq_ok.1 h
    cases h
    exact .ofTerms rfl ⟨rfl, rfl⟩
  | flag value =>
    obtain ⟨_, checked, h⟩ := bind_eq_ok.1 h
    cases h
    refine .terms ?_ (.single ⟨rfl, rfl⟩)
    rintro type ⟨⟩
    exact Target.checkField_eq_ok.1 checked
  | numericRange | geoBox | geoDistance | geoPolygon | geoShape | network =>
    obtain ⟨x, -, h⟩ := bind_eq_ok.1 h
    obtain ⟨_, checked, h⟩ := bind_eq_ok.1 h
    cases h
    exact .values rfl rfl rfl (Target.checkField_eq_ok.1 checked)
  | dateRange b parser =>
    obtain ⟨_, checked, h⟩ := bind_eq_ok.1 h
    obtain ⟨layouts, -, h⟩ := bind_eq_ok.1 h
    obtain ⟨dates, -, h⟩ := bind_eq_ok.1 h
    cases h
    exact .values rfl rfl rfl (Target.checkField_eq_ok.1 checked)

end Criterion
end Criteria

namespace Criterion.PlansOn
variable {t : Target} {field : String} {boost : Option Float} {c : Criterion} {p n : Plan}

theorem field_eq (h : c.PlansOn t field boost p) (node : p.HasNode n) (named : n.field? ≠ none) :
    n.field? = some field := by
  cases h with
  | nothing =>
    rw [Plan.hasNode_leaf node] at named
    exact absurd rfl named
  | terms _ gathers =>
    unfold Plan.field? at named ⊢
    cases leaf : n.condition? with
    | none =>
      rw [leaf] at named
      exact absurd rfl named
    | some d => exact (gathers.condition node leaf).1
  | values _ about =>
    rw [Plan.hasNode_leaf node]
    exact about

theorem names_or_nothing (h : c.PlansOn t field boost p) :
    p = .nothing t.options ∨ ∃ n, p.HasNode n ∧ n.field? = some field := by
  cases h with
  | nothing => exact .inl rfl
  | terms _ gathers =>
    obtain ⟨n, d, node, leaf, about, -⟩ := gathers.exists_condition
    refine .inr ⟨n, node, ?_⟩
    rw [Plan.field?, leaf]
    exact about
  | values _ about => exact .inr ⟨_, .root _, about⟩

/-- A condition on typed values is the whole plan of a criterion of its kind. -/
theorem of_typed (h : c.PlansOn t field boost p) (node : p.HasNode n) {d : Condition}
    (leaf : n.condition? = some d) {kind : Kind} {type : FieldType}
    (typed : d.typed? = some (kind, type)) :
    n = p ∧ c.kind = kind ∧ d.field? = some field ∧ t.mapping.Admits field type := by
  cases h with
  | nothing =>
    rw [Plan.hasNode_leaf node] at leaf
    cases leaf
    cases typed
  | terms _ gathers =>
    have untyped := (gathers.condition node leaf).2
    rw [typed] at untyped
    cases untyped
  | values _ about same admitted =>
    rw [Plan.hasNode_leaf node] at leaf ⊢
    cases leaf
    rw [same] at typed
    cases typed
    exact ⟨rfl, rfl, about, admitted⟩

theorem admits (h : c.PlansOn t field boost p) {type : FieldType} (typed : c.type? = some type) :
    t.mapping.Admits field type := by
  cases h with
  | nothing untyped =>
    rw [typed] at untyped
    cases untyped
  | terms admitted => exact admitted type typed
  | values typed' _ _ admitted =>
    rw [typed] at typed'
    cases typed'
    exact admitted

end Criterion.PlansOn

namespace Query

theorem compile_eq_ok {context : Context} {t : Target} {q : Query} {p : Plan} :
    q.compile context t = .ok p ↔ context.check = .ok () ∧ q.lower t = .ok p := by
  unfold compile
  cases context.check with
  | error e => simp [bind, Except.bind]
  | ok _ => simp

/-- A condition on typed values is the plan of a query of its kind, written in the tree or in a
query string.  It names the field of that query, or the default field if that has none, which is
mapped to the type of the values or not mapped in a dynamic mapping. -/
theorem compile_typed {context : Context} {t : Target} {q : Query} {p : Plan}
    (h : q.compile context t = .ok p) :
    ∀ n d kind type, p.HasNode n → n.condition? = some d → d.typed? = some (kind, type) →
      ∃ c field boost f, q.Asks c field boost ∧ c.kind = kind ∧
        (Query.onField c field boost).compile context t = .ok n ∧ d.field? = some f ∧
        f = (if field = "" then t.mapping.defaultField else field) ∧
        (t.mapping.fieldType f = some type ∨
          t.mapping.fieldType f = none ∧ t.mapping.isDynamic = true) := by
  intro n d kind type node leaf typed
  obtain ⟨running, lowered⟩ := compile_eq_ok.1 h
  have named : n.field? ≠ none := by
    rw [Plan.field?, leaf]
    exact Condition.field?_of_typed typed
  obtain ⟨c, field, boost, r, asks, lowered, inner⟩ := lower_origin lowered node named
  obtain ⟨rfl, same, about, admitted⟩ :=
    (Criterion.lower_plansOn lowered).of_typed inner leaf typed
  refine ⟨c, field, boost, t.resolve field, asks, same, compile_eq_ok.2 ⟨running, lowered⟩, about,
    ?_, admitted⟩
  simp only [Target.resolve, String.isEmpty_iff]

/-- A query string asks for numbers of a field that a dynamic mapping does not know, beside a query
for addresses in the default field. -/
theorem compile_typed_denoted :
    let s := (Schema.initial.withField "host" .ip).withDefaultField "host"
    let t : Target := ⟨fun _ => [], s.mapping, {}⟩
    let q : Query := .conjunction [.queryString "n:>3" none,
      .onField (.network "10.0.0.1/8") "" none] none
    let numbers : Plan := .leaf (.numericRange "n" ⟨some 3, none, false, false⟩) defaultBoost {}
    let hosts : Plan := .leaf (.network "host" ⟨.v4 0x0a000000, 8⟩) defaultBoost {}
    let p : Plan := .conjunction [.boolean none (some (.disjunction [numbers] 1 defaultBoost {}))
      none defaultBoost {}, hosts] defaultBoost {}
    q.compile {} t = .ok p ∧ p.HasNode numbers ∧ p.HasNode hosts ∧
      (∃ c field boost, q.Asks c field boost ∧ c.kind = .numericRange ∧
        (Query.onField c field boost).compile {} t = .ok numbers) ∧
      ∃ c field boost, q.Asks c field boost ∧ c.kind = .network ∧
        (Query.onField c field boost).compile {} t = .ok hosts := by
  intro s t q numbers hosts p
  have parsed : parseQueryString "n:>3" = .ok (.boolean none (some (.disjunction
      [.onField (.numericRange ⟨some 3, none, some false, none⟩) "n" none] (some 1) none)) none
      none) := by
    with_unfolding_all rfl
  have compiled : q.compile {} t = .ok p := by
    change (do
      let children ← lowerEach t (lowerText t) _
      return Plan.conjunction children defaultBoost {}) = _
    rw [lowerEach, lowerTree, lowerText_of_parse parsed]
    with_unfolding_all rfl
  have first : p.HasNode numbers :=
    .inside List.mem_cons_self (.inside (List.mem_singleton.2 rfl)
      (.inside (List.mem_singleton.2 rfl) (.root numbers)))
  have second : p.HasNode hosts :=
    .inside (List.mem_cons_of_mem _ List.mem_cons_self) (.root hosts)
  obtain ⟨c, field, boost, -, asks, kind, own, -⟩ :=
    compile_typed compiled numbers _ _ _ first rfl rfl
  obtain ⟨c', field', boost', -, asks', kind', own', -⟩ :=
    compile_typed compiled hosts _ _ _ second rfl rfl
  exact ⟨compiled, first, second, ⟨c, field, boost, asks, kind, own⟩,
    ⟨c', field', boost', asks', kind', own'⟩⟩

end Query

section Unmapped
variable {t : Target} {field : String}

theorem valid_bind_unknownField {α β : Type} {x : Except Violation α}
    {f : α → Except PlanError β} : (valid x >>= f) = .error (.unknownField field) ↔
      ∃ a, x = .ok a ∧ f a = .error (.unknownField field) := by
  cases x with
  | error v =>
    refine iff_of_false ?_ ?_
    · rintro ⟨⟩
    · rintro ⟨a, ⟨⟩, -⟩
  | ok a =>
    constructor
    · intro h
      exact ⟨a, rfl, h⟩
    · rintro ⟨_, ⟨⟩, h⟩
      exact h

theorem analyzer_bind_unknownField {β : Type} {name : Option String}
    {f : Analyzer → Except PlanError β}
    (h : (t.analyzer name field >>= f) = .error (.unknownField field)) :
    ∃ analyze, f analyze = .error (.unknownField field) := by
  unfold Target.analyzer at h
  cases name with
  | none => exact ⟨_, h⟩
  | some name =>
    dsimp only at h
    split at h
    · exact ⟨_, h⟩
    · cases h

/-- Queries for terms never report a field; the others check the field behind their own values, but
for date ranges, which check it first. -/
theorem Criterion.lower_unmapped {c : Criterion} {boost : Option Float}
    (unmapped : t.mapping.fieldType field = none) (fixed : t.mapping.isDynamic = false) :
    c.lower t field boost = .error (.unknownField field) ↔
      c.type? ≠ none ∧ (c.check = .ok () ∨ c.kind = .dateRange) := by
  have refused (kind : Kind) (type : FieldType) :
      t.checkField kind field type = .error (.unknownField field) :=
    Target.checkField_unmapped unmapped fixed
  cases c with
  | term | stem =>
    refine iff_of_false ?_ fun typed => typed.1 rfl
    rintro ⟨⟩
  | regexp | wildcard | termRange | phrase | multiPhrase =>
    refine iff_of_false ?_ fun typed => typed.1 rfl
    intro h
    obtain ⟨_, -, ⟨⟩⟩ := valid_bind_unknownField.1 h
  | fuzzy =>
    refine iff_of_false ?_ fun typed => typed.1 rfl
    intro h
    obtain ⟨_, -, h⟩ := valid_bind_unknownField.1 h
    dsimp only at h
    split at h <;> cases h
  | text =>
    refine iff_of_false ?_ fun typed => typed.1 rfl
    intro h
    obtain ⟨_, -, h⟩ := valid_bind_unknownField.1 h
    obtain ⟨_, ⟨⟩⟩ := analyzer_bind_unknownField h
  | textPhrase =>
    refine iff_of_false ?_ fun typed => typed.1 rfl
    intro h
    obtain ⟨_, -, h⟩ := valid_bind_unknownField.1 h
    obtain ⟨_, h⟩ := analyzer_bind_unknownField h
    dsimp only at h
    split at h <;> cases h
  | flag value =>
    refine iff_of_true ?_ ⟨Option.some_ne_none _, .inl rfl⟩
    change (t.checkField _ _ _ >>= _) = _
    rw [refused]
    rfl
  | numericRange | geoBox | geoPolygon | geoShape =>
    constructor
    · intro h
      obtain ⟨_, checked, -⟩ := valid_bind_unknownField.1 h
      exact ⟨Option.some_ne_none _, .inl checked⟩
    · rintro ⟨-, checked | other⟩
      · refine valid_bind_unknownField.2 ⟨(), checked, ?_⟩
        rw [refused]
        rfl
      · cases other
  | geoDistance | network =>
    constructor
    · intro h
      obtain ⟨x, checked, -⟩ := valid_bind_unknownField.1 h
      exact ⟨Option.some_ne_none _, .inl (map_eq_ok.2 ⟨x, checked, rfl⟩)⟩
    · rintro ⟨-, checked | other⟩
      · obtain ⟨x, checked, -⟩ := map_eq_ok.1 checked
        refine valid_bind_unknownField.2 ⟨x, checked, ?_⟩
        rw [refused]
        rfl
      · cases other
  | dateRange =>
    refine iff_of_true ?_ ⟨Option.some_ne_none _, .inr rfl⟩
    change (t.checkField _ _ _ >>= _) = _
    rw [refused]
    rfl

end Unmapped

namespace Query

theorem compile_onField {context : Context} (running : context.check = .ok ()) (t : Target)
    (c : Criterion) (field : String) (boost : Option Float) :
    (Query.onField c field boost).compile context t = c.lower t (t.resolve field) boost := by
  rw [compile, running, ok_bind, lower, lowerTree]

section Strict
variable {context : Context} {t : Target} {q : Query} {p : Plan}

theorem resolve_mapped_or_nothing (h : q.compile context t = .ok p)
    (mapped : ∀ n field, p.HasNode n → n.field? = some field →
      ∃ type, t.mapping.fieldType field = some type)
    {c : Criterion} {field : String} {boost : Option Float} (asks : q.Asks c field boost) :
    (∃ type, t.mapping.fieldType (t.resolve field) = some type) ∨
      (Query.onField c field boost).compile context t = .ok (.nothing t.options) := by
  obtain ⟨running, lowered⟩ := compile_eq_ok.1 h
  obtain ⟨r, own, inner⟩ := lower_asked asks lowered
  rcases (Criterion.lower_plansOn own).names_or_nothing with rfl | ⟨n, node, named⟩
  · exact .inr ((compile_onField running t c field boost).trans own)
  · exact .inl (mapped n _ (inner.trans node) named)

theorem field_mapped_of_asks (fixed : t.mapping.isDynamic = false)
    (h : q.compile context t = .ok p)
    (words : ∀ c field boost, q.Asks c field boost → c.type? = none →
      (∃ type, t.mapping.fieldType (t.resolve field) = some type) ∨
        (Query.onField c field boost).compile context t = .ok (.nothing t.options))
    {n : Plan} {field : String} (node : p.HasNode n) (named : n.field? = some field) :
    ∃ type, t.mapping.fieldType field = some type := by
  obtain ⟨running, lowered⟩ := compile_eq_ok.1 h
  have some : n.field? ≠ none := by
    rw [named]
    exact Option.some_ne_none _
  obtain ⟨c, written, boost, r, asks, own, inner⟩ := lower_origin lowered node some
  have plans := Criterion.lower_plansOn own
  have same : t.resolve written = field :=
    Option.some.inj ((plans.field_eq inner some).symm.trans named)
  rw [← same]
  cases typed : c.type? with
  | some type =>
    rcases plans.admits typed with mapped | ⟨-, dynamic⟩
    · exact ⟨type, mapped⟩
    · rw [fixed] at dynamic
      cases dynamic
  | none =>
    rcases words c written boost asks typed with mapped | nothing
    · exact mapped
    · -- The plan would match nothing, and so have no node that names a field.
      rw [compile_onField running, own] at nothing
      cases nothing
      rw [Plan.hasNode_leaf inner] at named
      cases named

end Strict

/-- In a strict schema all fields of a plan are mapped exactly when each query for terms of an
unmapped field, in the tree or in a query string, has a plan that matches nothing.  The field is
reported as unknown by valid queries for typed values, and by date ranges whether they are valid or
not. -/
theorem compile_strict (context : Context) (s : Schema) (terms : String → List String)
    (options : Options) :
    let t : Target := ⟨terms, s.strict.mapping, options⟩
    let Mapped (field : String) : Prop := ∃ type, t.mapping.fieldType field = some type
    (∀ q p, Query.compile context t q = .ok p →
      ((∀ n field, p.HasNode n → n.field? = some field → Mapped field) ↔
        ∀ c field boost, q.Asks c field boost → c.type? = none → Mapped (t.resolve field) ∨
          (Query.onField c field boost).compile context t = .ok (.nothing options))) ∧
    (context.cancelled = false → ∀ c field boost, ¬ Mapped (t.resolve field) →
      ((Query.onField c field boost).compile context t = .error (.unknownField (t.resolve field)) ↔
        c.type? ≠ none ∧ (c.check = .ok () ∨ c.kind = .dateRange))) := by
  intro t Mapped
  refine ⟨?_, ?_⟩
  · intro q p h
    constructor
    · intro mapped c field boost asks _
      exact resolve_mapped_or_nothing h mapped asks
    · intro words n field node named
      exact field_mapped_of_asks rfl h words node named
  · intro running c field boost unmapped
    have checked : context.check = .ok () := by
      rw [Context.check, running]
      rfl
    rw [compile_onField checked]
    refine Criterion.lower_unmapped (Option.eq_none_iff_forall_ne_some.2 ?_) rfl
    intro type mapped
    exact unmapped ⟨type, mapped⟩

/-- A prefix of no term leaves its unmapped field out of the plan, a flag reports the field. -/
theorem compile_strict_prefix :
    let s := Schema.initial.withField "stars" .numeric
    let t : Target := ⟨fun _ => [], s.strict.mapping, {}⟩
    let q : Query := .conjunction [.onField (.numericRange ⟨some 1, none, none, none⟩) "stars" none,
      .onField (.stem "x") "tag" none] none
    let numbers : Plan := .leaf (.numericRange "stars" ⟨some 1, none, true, false⟩) defaultBoost {}
    let p : Plan := .conjunction [numbers, .nothing {}] defaultBoost {}
    q.compile {} t = .ok p ∧
      (∀ n field, p.HasNode n → n.field? = some field →
        ∃ type, t.mapping.fieldType field = some type) ∧
      (∀ c field boost, q.Asks c field boost → c.type? = none →
        (∃ type, t.mapping.fieldType (t.resolve field) = some type) ∨
          (Query.onField c field boost).compile {} t = .ok (.nothing {})) ∧
      (Query.onField (.flag true) "tag" none).compile {} t = .error (.unknownField "tag") := by
  intro s t q numbers p
  have compiled : q.compile {} t = .ok p := by
    with_unfolding_all rfl
  have mapped : ∀ n field, p.HasNode n → n.field? = some field →
      ∃ type, t.mapping.fieldType field = some type := by
    intro n field node named
    cases node with
    | root => cases named
    | inside child node =>
      rcases List.mem_cons.1 child with rfl | child
      · rw [Plan.hasNode_leaf node] at named
        cases named
        exact ⟨.numeric, rfl⟩
      · cases List.mem_singleton.1 child
        rw [Plan.hasNode_leaf node] at named
        cases named
  have unmapped : ¬ ∃ type, t.mapping.fieldType (t.resolve "tag") = some type := by
    rintro ⟨type, ⟨⟩⟩
  obtain ⟨fields, reports⟩ := compile_strict {} s (fun _ => []) {}
  exact ⟨compiled, mapped, (fields q p compiled).1 mapped,
    (reports rfl (.flag true) "tag" none unmapped).2 ⟨Option.some_ne_none _, .inl rfl⟩⟩

/-- A strict schema lets a term of an unmapped field through, where it refuses a flag of the same
field. -/
theorem compile_strict_unmapped_term :
    let s := (Schema.initial.withField "stars" .numeric).strict
    let t : Target := ⟨fun _ => [], s.mapping, {}⟩
    let term : Query := .onField (.term "go") "tag" none
    let p : Plan := .leaf (.term "tag" "go") defaultBoost {}
    s.mapping.isDynamic = false ∧ s.mapping.fieldType "tag" = none ∧
      term.compile {} t = .ok p ∧ p.HasNode p ∧ p.field? = some "tag" ∧
      (Query.onField (.flag true) "tag" none).compile {} t = .error (.unknownField "tag") := by
  intro s t term p
  exact ⟨rfl, rfl, rfl, .root p, rfl, rfl⟩

end Query

end SearchQuery
