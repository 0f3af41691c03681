import Mathlib.Data.List.Forall2
import SearchQuery.Plan.Lowering
import SearchQuery.Proofs.Outcome

/-!
# The plans of composite queries

What the lowering of a conjunction, a disjunction or a boolean query succeeds with, in terms of the
plans of its children.
-/

set_option autoImplicit false
namespace SearchQuery.Query

section Trees
variable {t : Target} {onText : String → Except PlanError Plan}

theorem lowerEach_nil {ps : List Plan} : lowerEach t onText [] = .ok ps ↔ ps = [] := by
  rw [lowerEach]
  constructor
  · rintro ⟨⟩
    rfl
  · rintro rfl
    rfl

theorem lowerEach_cons {q : Query} {rest : List Query} {ps : List Plan} :
    lowerEach t onText (q :: rest) = .ok ps ↔ ∃ p others, q.lowerTree t onText = .ok p ∧
      lowerEach t onText rest = .ok others ∧ ps = p :: others := by
  rw [lowerEach]
  simp only [bind_eq_ok, pure_eq_ok]
  constructor
  · rintro ⟨p, first, others, each, rfl⟩
    exact ⟨p, others, first, each, rfl⟩
  · rintro ⟨p, others, first, each, rfl⟩
    exact ⟨p, first, others, each, rfl⟩

theorem lowerEach_iff {qs : List Query} {ps : List Plan} : lowerEach t onText qs = .ok ps ↔
    List.Forall₂ (fun q p => q.lowerTree t onText = .ok p) qs ps := by
  induction qs generalizing ps with
  | nil => rw [lowerEach_nil, List.forall₂_nil_left_iff]
  | cons q rest ih => simp only [lowerEach_cons, List.forall₂_cons_left_iff, ih]

theorem lowerSlot_none {p : Option Plan} : lowerSlot t onText none = .ok p ↔ p = none := by
  rw [lowerSlot]
  constructor
  · rintro ⟨⟩
    rfl
  · rintro rfl
    rfl

theorem lowerSlot_some {q : Query} {p : Option Plan} :
    lowerSlot t onText (some q) = .ok p ↔ ∃ r, p = some r ∧ q.lowerTree t onText = .ok r := by
  rw [lowerSlot]
  simp only [bind_eq_ok, pure_eq_ok]
  constructor
  · rintro ⟨r, lowered, rfl⟩
    exact ⟨r, rfl, lowered⟩
  · rintro ⟨r, rfl, lowered⟩
    exact ⟨r, lowered, rfl⟩

theorem lowerSlot_cases {slot : Option Query} {p : Option Plan}
    (h : lowerSlot t onText slot = .ok p) :
    slot = none ∧ p = none ∨ ∃ q r, slot = some q ∧ p = some r := by
  cases slot with
  | none => exact .inl ⟨rfl, lowerSlot_none.1 h⟩
  | some q =>
    obtain ⟨r, rfl, -⟩ := lowerSlot_some.1 h
    exact .inr ⟨q, r, rfl, rfl⟩

theorem lowerSlot_eq_none {slot : Option Query} {p : Option Plan}
    (h : lowerSlot t onText slot = .ok p) : p = none ↔ slot = none := by
  rcases lowerSlot_cases h with ⟨rfl, rfl⟩ | ⟨q, r, rfl, rfl⟩
  · exact iff_of_true rfl rfl
  · simp

theorem lowerTree_onField {c : Criterion} {field : String} {boost : Option Float} :
    (Query.onField c field boost).lowerTree t onText = c.lower t (t.resolve field) boost := by
  rw [lowerTree]

theorem lowerTree_conjunction {cs : List Query} {boost : Option Float} {p : Plan} :
    (Query.conjunction cs boost).lowerTree t onText = .ok p ↔
      cs = [] ∧ .nothing t.options = p ∨ cs ≠ [] ∧ ∃ ps, lowerEach t onText cs = .ok ps ∧
        .conjunction ps (boost.getD defaultBoost) t.options = p := by
  rw [lowerTree]
  cases cs with
  | nil => simp
  | cons q rest =>
    change (lowerEach t onText (q :: rest) >>= _) = _ ↔ _
    rw [bind_eq_ok]
    simp [pure_eq_ok]

theorem lowerTree_disjunction {ds : List Query} {min : Option UInt32} {boost : Option Float}
    {p : Plan} : (Query.disjunction ds min boost).lowerTree t onText = .ok p ↔
      valid (checkClauses ds.length min) = .ok () ∧
        (ds = [] ∧ .nothing t.options = p ∨ ds ≠ [] ∧ ∃ ps, lowerEach t onText ds = .ok ps ∧
          .disjunction ps (min.getD 0).toNat (boost.getD defaultBoost) t.options = p) := by
  rw [lowerTree, bind_unit_eq_ok]
  refine and_congr_right fun _ => ?_
  cases ds with
  | nil => simp [pure_eq_ok]
  | cons q rest =>
    change (lowerEach t onText (q :: rest) >>= _) = _ ↔ _
    rw [bind_eq_ok]
    simp [pure_eq_ok]

theorem lowerTree_boolean {must should mustNot : Option Query} {boost : Option Float} {p : Plan} :
    (Query.boolean must should mustNot boost).lowerTree t onText = .ok p ↔
      ∃ m s n, lowerSlot t onText must = .ok m ∧ lowerSlot t onText should = .ok s ∧
        lowerSlot t onText mustNot = .ok n ∧ booleanPlan m s n boost t.options = p := by
  rw [lowerTree]
  simp only [bind_eq_ok, pure_eq_ok]
  constructor
  · rintro ⟨m, hm, s, hs, n, hn, h⟩
    exact ⟨m, s, n, hm, hs, hn, h⟩
  · rintro ⟨m, s, n, hm, hs, hn, h⟩
    exact ⟨m, hm, s, hs, n, hn, h⟩

end Trees

end SearchQuery.Query
