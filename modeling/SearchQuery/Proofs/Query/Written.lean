import SearchQuery.Proofs.Geo.Written
import SearchQuery.Proofs.Query.Decoded

/-!
# Written queries

What the members that are written for a query select and recover.  The keys select the kind of the
query unless they leave out the one that stands for it, and its record recovers the query except for
numbers that are not finite, which are written as null.
-/

set_option autoImplicit false
namespace SearchQuery
open Json (latest valueMembers Record RestoresAll Restores)

section Latest
variable {key : String}

@[simp] theorem latest_optionalMember {α : Type} (k : String) (write : α → Json) (x : Option α) :
    latest key (optionalMember k write x) = if k = key then x.map write else none := by
  cases x with
  | none => simp [optionalMember]
  | some a => simp [optionalMember]

@[simp] theorem latest_boostMember (boost : Option Float) :
    latest key (boostMember boost) = if "boost" = key then boost.map Json.ofFloat else none :=
  latest_optionalMember ..

@[simp] theorem latest_fuzzinessMember (fuzziness : Option Fuzziness) :
    latest key (fuzzinessMember fuzziness) =
      if "fuzziness" = key then fuzziness.map Fuzziness.toJson else none :=
  latest_optionalMember ..

@[simp] theorem latest_fieldMember (field : String) :
    latest key (fieldMember field) =
      if "field" = key then if field = "" then none else some (.string field) else none := by
  unfold fieldMember
  by_cases h : field = ""
  · simp [h]
  · simp [h]

@[simp] theorem latest_slotMember (k : String) (slot : Option Query) :
    latest key (Query.slotMember k slot) = if k = key then slot.map Query.toJson else none := by
  cases slot with
  | none => simp [Query.slotMember]
  | some q => simp [Query.slotMember]

end Latest

theorem restores_fuzziness : RestoresAll QueryRecord.readFuzziness Fuzziness.toJson := by
  refine .intro fun f => ?_
  cases f with
  | auto =>
    have same : sameIgnoringAsciiCase "auto" "auto" = true := beq_self_eq_true _
    simp only [QueryRecord.readFuzziness, Fuzziness.toJson, Json.normalize, Fuzziness.read]
    rw [if_pos same]
  | edits n =>
    have small : n.toInt < 0x8000000000000000 := n.toInt_lt
    simp only [QueryRecord.readFuzziness, Fuzziness.toJson, Json.ofInt64, Json.normalize,
      Fuzziness.read]
    rw [if_pos small, Int64.ofInt_toInt]

theorem fuzziness_not_null (f : Fuzziness) : f.toJson.normalize ≠ .null := by
  cases f <;> simp [Fuzziness.toJson, Json.ofInt64, Json.normalize]

theorem restores_clauseCount : RestoresAll QueryRecord.clauseCount Json.ofUInt32 := by
  refine .intro fun n => ?_
  have bound := n.toNat_lt
  have range : 0 ≤ (n.toNat : Int) ∧ (n.toNat : Int) < 0x100000000 := by omega
  simp only [Json.ofUInt32, Json.normalize, QueryRecord.clauseCount]
  rw [if_pos range, Int.toNat_natCast, UInt32.ofNat_toNat]

theorem natural32_not_null (n : UInt32) : (Json.ofUInt32 n).normalize ≠ .null := by
  simp [Json.ofUInt32, Json.normalize]

theorem text_not_null (s : String) : (Json.string s).normalize ≠ .null := by
  simp [Json.normalize]

theorem flag_not_null (b : Bool) : (Json.boolean b).normalize ≠ .null := by
  simp [Json.normalize]

theorem restores_operator :
    RestoresAll (Json.choice Operator.named : QueryReader Operator) fun o => .string o.name :=
  Json.restores_choice fun o => by cases o <;> rfl

theorem restores_relation :
    RestoresAll (Json.choice Geo.Relation.named : QueryReader Geo.Relation)
      fun r => .string r.name :=
  Json.restores_choice fun r => by cases r <;> rfl

theorem restores_point : Restores QueryRecord.readPoint Geo.Point.toJson Geo.Point.IsFinite :=
  Geo.Point.restores_read _

namespace Criterion

def IsLocated : Criterion → Prop
  | .geoBox topLeft bottomRight => topLeft.IsFinite ∧ bottomRight.IsFinite
  | .geoDistance center _ => center.IsFinite
  | .geoPolygon points => ∀ p ∈ points, p.IsFinite
  | .geoShape shape _ => shape.IsFinite
  | _ => True

/-- The criterion without the ends of a range that are not finite. -/
def settled : Criterion → Criterion
  | .numericRange b =>
    .numericRange { b with min := b.min.filter Float.isFinite, max := b.max.filter Float.isFinite }
  | c => c

end Criterion

section Recovery
variable {field : String} {boost : Option Float} {members : Members}

theorem QueryRecord.boost_recovers (written : latest "boost" members = boost.map Json.ofFloat) :
    QueryRecord.boost.Recovers members True (boost.filter Float.isFinite) :=
  .optional_real written

theorem QueryRecord.field_recovers
    (written : latest "field" members = if field = "" then none else some (.string field)) :
    QueryRecord.field.Recovers members True field := by
  refine .defaulted Json.restores_text ?_
  rw [written]
  by_cases h : field = ""
  · simp [h]
  · simp [h]

theorem QueryRecord.onField_recovers {r : QueryRecord Criterion} {p : Prop} {c : Criterion}
    (h : r.Recovers members p c)
    (hfield : latest "field" members = if field = "" then none else some (.string field))
    (hboost : latest "boost" members = boost.map Json.ofFloat) :
    (QueryRecord.onField r).Recovers members p (.onField c field (boost.filter Float.isFinite)) :=
  (((h.map _).seq (field_recovers hfield)).seq (boost_recovers hboost)).congr (by simp)

theorem QueryRecord.fuzziness_recovers {fuzziness : Option Fuzziness}
    (written : latest "fuzziness" members = fuzziness.map Fuzziness.toJson) :
    QueryRecord.fuzziness.Recovers members True fuzziness :=
  .optional restores_fuzziness fuzziness_not_null written

theorem QueryRecord.prefixLength_recovers {length : Option UInt32}
    (written : latest "prefix_length" members = length.map Json.ofUInt32) :
    QueryRecord.prefixLength.Recovers members True length :=
  .optional Json.restores_natural32 natural32_not_null written

theorem QueryRecord.text_recovers {key : String} {value : Option String}
    (written : latest key members = value.map .string) :
    (Record.optional key Json.text : QueryRecord (Option String)).Recovers members True value :=
  .optional Json.restores_text text_not_null written

theorem QueryRecord.flag_recovers {key : String} {value : Option Bool}
    (written : latest key members = value.map .boolean) :
    (Record.optional key Json.flag : QueryRecord (Option Bool)).Recovers members True value :=
  .optional Json.restores_flag flag_not_null written

theorem readGeometry_written (shape : Geo.Shape) (relation : Geo.Relation) (c : Criterion) :
    QueryRecord.readGeometry (Json.object [("shape", shape.toJson),
        ("relation", .string relation.name)]).normalize = .ok c ↔
      shape.IsFinite ∧ c = .geoShape shape relation := by
  have sound : QueryRecord.geometry.IsSound :=
    Record.isSound_seq (Record.isSound_map _ (Record.isSound_required _ _))
      (Record.isSound_defaulted _ _ _)
  have recovers : QueryRecord.geometry.Recovers
      [("shape", shape.toJson), ("relation", .string relation.name)]
      (shape.IsFinite ∧ True) (.geoShape shape relation) :=
    ((Record.Recovers.required (Geo.Shape.restores_read shape) (by simp)).map _).seq
      (.defaulted restores_relation (.inl (by simp)))
  have read := Record.readMembers_eq_ok sound (x := c) (Json.valueMembers_sorted
    [("shape", shape.toJson), ("relation", .string relation.name)])
  rw [and_true] at recovers
  exact read.trans (recovers c)

theorem QueryRecord.operator_recovers {operator : Option Operator}
    (written : latest "operator" members = operator.map fun o => .string o.name) :
    (Record.optional "operator" (Json.choice Operator.named) :
      QueryRecord (Option Operator)).Recovers members True operator :=
  .optional restores_operator (fun _ => text_not_null _) written

section Bounds
variable {lower upper : String}

theorem QueryRecord.bounds_recovers {b : Bounds String}
    (hmin : latest lower members = b.min.map .string)
    (hmax : latest upper members = b.max.map .string)
    (hlower : latest ("inclusive_" ++ lower) members = b.inclusiveMin.map .boolean)
    (hupper : latest ("inclusive_" ++ upper) members = b.inclusiveMax.map .boolean) :
    (QueryRecord.bounds Json.text lower upper).Recovers members True b :=
  (((((text_recovers hmin).map _).seq (text_recovers hmax)).seq (flag_recovers hlower)).seq
    (flag_recovers hupper)).congr (by simp)

theorem QueryRecord.numbers_recovers {b : Bounds Float}
    (hmin : latest lower members = b.min.map Json.ofFloat)
    (hmax : latest upper members = b.max.map Json.ofFloat)
    (hlower : latest ("inclusive_" ++ lower) members = b.inclusiveMin.map .boolean)
    (hupper : latest ("inclusive_" ++ upper) members = b.inclusiveMax.map .boolean) :
    (QueryRecord.bounds Json.real lower upper).Recovers members True
      { b with min := b.min.filter Float.isFinite, max := b.max.filter Float.isFinite } := by
  have min : (Record.optional lower Json.real : QueryRecord (Option Float)).Recovers members _ _ :=
    .optional_real hmin
  have max : (Record.optional upper Json.real : QueryRecord (Option Float)).Recovers members _ _ :=
    .optional_real hmax
  exact ((((min.map _).seq max).seq (flag_recovers hlower)).seq (flag_recovers hupper)).congr
    (by simp)

end Bounds

theorem Criterion.recovers (children : List (String × QueryRecord.Children)) (c : Criterion)
    (field : String) (boost : Option Float) :
    (QueryRecord.ofKind children c.kind).Recovers
      (c.members (fieldMember field) (boostMember boost)) c.IsLocated
      (.onField c.settled field (boost.filter Float.isFinite)) := by
  have points : Restores (Json.listOf QueryRecord.readPoint) Geo.Shape.pointsJson _ :=
    restores_point.listOf
  have texts : Restores (Json.listOf Json.text : QueryReader (List String)) stringsJson _ :=
    Json.restores_text.listOf
  cases c with
  | term t | stem t | regexp t | wildcard t | network t =>
    refine QueryRecord.onField_recovers ?_ (by simp [members]) (by simp [members])
    exact (Record.Recovers.required (Json.restores_text t) (by simp [members])).map _
  | flag b =>
    refine QueryRecord.onField_recovers ?_ (by simp [members]) (by simp [members])
    exact (Record.Recovers.required (Json.restores_flag b) (by simp [members])).map _
  | fuzzy t length fuzziness =>
    refine QueryRecord.onField_recovers ?_ (by simp [members]) (by simp [members])
    exact (((Record.Recovers.required (Json.restores_text t) (by simp [members])).map _).seq
      (QueryRecord.prefixLength_recovers (by simp [members]))).seq
      (QueryRecord.fuzziness_recovers (by simp [members])) |>.congr (by simp [IsLocated])
  | text t analyzer length fuzziness operator =>
    refine QueryRecord.onField_recovers ?_ (by simp [members]) (by simp [members])
    exact (((((Record.Recovers.required (Json.restores_text t) (by simp [members])).map _).seq
      (QueryRecord.text_recovers (by simp [members]))).seq
      (QueryRecord.prefixLength_recovers (by simp [members]))).seq
      (QueryRecord.fuzziness_recovers (by simp [members]))).seq
      (QueryRecord.operator_recovers (by simp [members])) |>.congr (by simp [IsLocated])
  | textPhrase t analyzer fuzziness =>
    refine QueryRecord.onField_recovers ?_ (by simp [members]) (by simp [members])
    exact (((Record.Recovers.required (Json.restores_text t) (by simp [members])).map _).seq
      (QueryRecord.text_recovers (by simp [members]))).seq
      (QueryRecord.fuzziness_recovers (by simp [members])) |>.congr (by simp [IsLocated])
  | phrase terms fuzziness =>
    refine QueryRecord.onField_recovers ?_ (by simp [members]) (by simp [members])
    exact ((Record.Recovers.required (texts terms) (by simp [members])).map _).seq
      (QueryRecord.fuzziness_recovers (by simp [members])) |>.congr (by simp [IsLocated])
  | multiPhrase terms fuzziness =>
    refine QueryRecord.onField_recovers ?_ (by simp [members]) (by simp [members])
    exact ((Record.Recovers.required (texts.listOf terms) (by simp [members])).map _).seq
      (QueryRecord.fuzziness_recovers (by simp [members])) |>.congr (by simp [IsLocated])
  | numericRange b =>
    refine QueryRecord.onField_recovers ?_ (by simp [members, Bounds.members])
      (by simp [members, Bounds.members])
    exact (QueryRecord.numbers_recovers (by simp [members, Bounds.members])
      (by simp [members, Bounds.members]) (by simp [members, Bounds.members])
      (by simp [members, Bounds.members])).map _
  | termRange b =>
    refine QueryRecord.onField_recovers ?_ (by simp [members, Bounds.members])
      (by simp [members, Bounds.members])
    exact (QueryRecord.bounds_recovers (by simp [members, Bounds.members])
      (by simp [members, Bounds.members]) (by simp [members, Bounds.members])
      (by simp [members, Bounds.members])).map _
  | dateRange b parser =>
    refine QueryRecord.onField_recovers ?_ (by simp [members, Bounds.members])
      (by simp [members, Bounds.members])
    exact ((QueryRecord.bounds_recovers (by simp [members, Bounds.members])
      (by simp [members, Bounds.members]) (by simp [members, Bounds.members])
      (by simp [members, Bounds.members])).map _).seq
      (QueryRecord.text_recovers (by simp [members, Bounds.members])) |>.congr (by simp [IsLocated])
  | geoBox topLeft bottomRight =>
    refine QueryRecord.onField_recovers ?_ (by simp [members]) (by simp [members])
    exact ((Record.Recovers.required (restores_point topLeft) (by simp [members])).map _).seq
      (.required (restores_point bottomRight) (by simp [members]))
  | geoDistance center distance =>
    refine QueryRecord.onField_recovers ?_ (by simp [members]) (by simp [members])
    exact ((Record.Recovers.required (restores_point center) (by simp [members])).map _).seq
      (.required (Json.restores_text distance) (by simp [members])) |>.congr (by simp [IsLocated])
  | geoPolygon ps =>
    refine QueryRecord.onField_recovers ?_ (by simp [members]) (by simp [members])
    exact (Record.Recovers.required (points ps) (by simp [members])).map _
  | geoShape shape relation =>
    refine QueryRecord.onField_recovers ?_ (by simp [members]) (by simp [members])
    exact .required (readGeometry_written shape relation) (by simp [members])

end Recovery

def Bounds.IsBound {α : Type} (b : Bounds α) : Prop := b.min ≠ none ∨ b.max ≠ none

/-- The keys that are written for the criterion select its kind. -/
def Criterion.IsSelected : Criterion → Prop
  | .fuzzy _ _ fuzziness => fuzziness ≠ none
  | .numericRange b => b.min.any Float.isFinite = true ∨ b.max.any Float.isFinite = true
  | .termRange b => b.IsBound
  | .dateRange b _ => b.IsBound
  | _ => True

section Kinds
variable (members : Members)

theorem hasKey_valueMembers (key : String) :
    Json.hasKey (valueMembers members) key = (latest key members).isSome := by
  rw [Json.hasKey, Json.lookup_valueMembers, Option.isSome_map]

theorem anyEnd_valueMembers (isType : Json → Bool) :
    anyEnd isType (valueMembers members) =
      (((latest "min" members).map Json.normalize).any isType ||
        ((latest "max" members).map Json.normalize).any isType) := by
  simp [anyEnd, Json.lookup_valueMembers]

end Kinds

theorem isNumber_ofFloat (x : Float) : (Json.ofFloat x).normalize.isNumber = x.isFinite := by
  rw [Json.normalize_ofFloat]
  unfold Json.ofFloat
  cases h : x.isFinite <;> rfl

theorem Criterion.ofMembers_written (c : Criterion) (field : String) (boost : Option Float) :
    Kind.ofMembers (valueMembers (c.members (fieldMember field) (boostMember boost))) =
      some c.kind.rule ↔ c.IsSelected := by
  cases c with
  | numericRange b =>
    cases hmin : b.min with
    | none =>
      cases hmax : b.max <;>
        simp [Kind.ofMembers, hasKey_valueMembers, anyEnd_valueMembers, members, Bounds.members,
          hmin, hmax, kind, Kind.rule, IsSelected, isNumber_ofFloat]
    | some x =>
      cases hmax : b.max <;> cases hx : x.isFinite <;>
        simp [Kind.ofMembers, hasKey_valueMembers, anyEnd_valueMembers, members, Bounds.members,
          hmin, hmax, hx, kind, Kind.rule, IsSelected, isNumber_ofFloat]
  | termRange b =>
    cases hmin : b.min <;> cases hmax : b.max <;>
      simp [Kind.ofMembers, hasKey_valueMembers, anyEnd_valueMembers, members, Bounds.members,
        hmin, hmax, kind, Kind.rule, IsSelected, Bounds.IsBound, Json.normalize, Json.isNumber,
        Json.isString]
  | dateRange b parser =>
    cases hmin : b.min <;> cases hmax : b.max <;>
      simp [Kind.ofMembers, hasKey_valueMembers, anyEnd_valueMembers, members, Bounds.members,
        hmin, hmax, kind, Kind.rule, IsSelected, Bounds.IsBound]
  | _ =>
    simp [Kind.ofMembers, hasKey_valueMembers, anyEnd_valueMembers, members, kind, Kind.rule,
      IsSelected]

end SearchQuery
