import SearchQuery.Proofs.Plan.Lowered
import SearchQuery.Proofs.Query.Expansion

/-!
# Plans of expanded queries

A query can be expanded before it is compiled, or its query strings can be compiled where they
stand.  The two ways fail alike and give plans of one shape; but only expansion carries the boost of
a query string over to the query that it denotes (`Query.carryBoosts`), so the plans are equal
exactly when no boost is lost.
-/

set_option autoImplicit false
namespace SearchQuery

namespace Plan

def overrideBoost (boost : Option Float) (p : Plan) : Plan :=
  match boost with
  | some b => p.setBoost b
  | none => p

theorem setBoost_eq_self {p : Plan} {b : Float} : p.setBoost b = p ↔ b = p.boost := by
  cases p <;> simp [setBoost, boost]

end Plan

namespace Query

mutual

/-- Gives the plans of query strings the boosts of their nodes.  The plan has the shape of the
query, but for the place of a query string. -/
def carryBoosts : Query → Plan → Plan
  | .queryString _ boost, p => p.overrideBoost boost
  | .conjunction cs _, .conjunction ps b o => .conjunction (carryEach cs ps) b o
  | .disjunction ds _ _, .disjunction ps m b o => .disjunction (carryEach ds ps) m b o
  | .boolean must should mustNot _, .boolean p q r b o =>
    .boolean (carrySlot must p) (carrySlot should q) (carrySlot mustNot r) b o
  | _, p => p

def carryEach : List Query → List Plan → List Plan
  | q :: qs, p :: ps => q.carryBoosts p :: carryEach qs ps
  | _, ps => ps

def carrySlot : Option Query → Option Plan → Option Plan
  | some q, some p => some (q.carryBoosts p)
  | _, p => p

end

/-- The node is no query string with a boost of its own that differs from the default. -/
def KeepsBoost : Query → Prop
  | .queryString _ (some b) => b = defaultBoost
  | _ => True

section Structured
variable {t : Target} (f g : String → Except PlanError Plan)

mutual

theorem lowerTree_of_structured : ∀ q : Query, q.hasQueryString = false →
    q.lowerTree t f = q.lowerTree t g
  | .onField .., _ => by rw [lowerTree, lowerTree]
  | .documents .., _ => by rw [lowerTree, lowerTree]
  | .everything .., _ => by rw [lowerTree, lowerTree]
  | .nothing .., _ => by rw [lowerTree, lowerTree]
  | .queryString .., h => by cases h
  | .conjunction cs _, h => by rw [lowerTree, lowerTree, lowerEach_of_structured cs h]
  | .disjunction ds _ _, h => by rw [lowerTree, lowerTree, lowerEach_of_structured ds h]
  | .boolean must should mustNot _, h => by
    rw [hasQueryString, Bool.or_eq_false_iff, Bool.or_eq_false_iff] at h
    rw [lowerTree, lowerTree, lowerSlot_of_structured must h.1.1,
      lowerSlot_of_structured should h.1.2, lowerSlot_of_structured mustNot h.2]

theorem lowerEach_of_structured : ∀ qs : List Query, anyQueryString qs = false →
    lowerEach t f qs = lowerEach t g qs
  | [], _ => by rw [lowerEach, lowerEach]
  | q :: rest, h => by
    rw [anyQueryString, Bool.or_eq_false_iff] at h
    rw [lowerEach, lowerEach, lowerTree_of_structured q h.1, lowerEach_of_structured rest h.2]

theorem lowerSlot_of_structured : ∀ slot : Option Query, slotHasQueryString slot = false →
    lowerSlot t f slot = lowerSlot t g slot
  | none, _ => by rw [lowerSlot, lowerSlot]
  | some q, h => by rw [lowerSlot, lowerSlot, lowerTree_of_structured q h]

end

end Structured

theorem lowerText_of_parse {text : String} {q : Query} (h : parseQueryString text = .ok q)
    (t : Target) : lowerText t text = q.lower t := by
  unfold lowerText lower
  rw [h]
  exact lowerTree_of_structured _ _ q (parse_hasQueryString h)

theorem booleanPlan_setBoost {must should mustNot : Option Plan}
    (h : ¬ (must = none ∧ should = none ∧ mustNot = none)) (options : Options) (b : Float) :
    booleanPlan must should mustNot (some b) options =
      (booleanPlan must should mustNot none options).setBoost b := by
  cases must with
  | some p => rfl
  | none =>
    cases should with
    | some p => rfl
    | none =>
      cases mustNot with
      | some p => rfl
      | none => exact absurd ⟨rfl, rfl, rfl⟩ h

theorem booleanPlan_boost (must should mustNot : Option Plan) (options : Options) :
    (booleanPlan must should mustNot none options).boost = defaultBoost := by
  cases must <;> cases should <;> cases mustNot <;> rfl

/-- The root of a denoted query is nothing or a boolean query, so its boost is that of its plan. -/
theorem parse_lower_setBoost {text : String} {q : Query} (h : parseQueryString text = .ok q)
    (t : Target) (b : Float) : (q.setBoost b).lower t = (q.lower t).map (Plan.setBoost b) := by
  obtain ⟨clauses, -, rfl⟩ := Grammar.parseQueryString_eq_ok.1 h
  rcases Grammar.assemble_cases clauses with hq | ⟨must, should, mustNot, hq, taken⟩
  · rw [hq]
    rfl
  · rw [hq]
    simp only [setBoost, lower, lowerTree]
    cases hm : lowerSlot t (lowerText t) must with
    | error e => rfl
    | ok m =>
      cases hs : lowerSlot t (lowerText t) should with
      | error e => rfl
      | ok s =>
        cases hn : lowerSlot t (lowerText t) mustNot with
        | error e => rfl
        | ok n =>
          have free : ¬ (m = none ∧ s = none ∧ n = none) := by
            rw [lowerSlot_eq_none hm, lowerSlot_eq_none hs, lowerSlot_eq_none hn]
            exact taken
          exact congrArg Except.ok (booleanPlan_setBoost free t.options b)

theorem parse_lower_boost {text : String} {q : Query} (h : parseQueryString text = .ok q)
    {t : Target} {p : Plan} (hp : q.lower t = .ok p) : p.boost = defaultBoost := by
  obtain ⟨clauses, -, rfl⟩ := Grammar.parseQueryString_eq_ok.1 h
  rcases Grammar.assemble_cases clauses with hq | ⟨must, should, mustNot, hq, -⟩
  · rw [hq] at hp
    cases hp
    rfl
  · rw [hq] at hp
    obtain ⟨m, s, n, -, -, -, rfl⟩ := lowerTree_boolean.1 hp
    exact booleanPlan_boost m s n t.options

theorem lowerText_boost {t : Target} {text : String} {p : Plan} (h : lowerText t text = .ok p) :
    p.boost = defaultBoost := by
  cases parsed : parseQueryString text with
  | error fault =>
    unfold lowerText at h
    rw [parsed] at h
    cases h
  | ok q =>
    rw [lowerText_of_parse parsed] at h
    exact parse_lower_boost parsed h

theorem denoted_lower {text : String} {boost : Option Float} {e : Query}
    (h : denoted text boost = .ok e) (t : Target) :
    e.lower t = (lowerText t text).map (Plan.overrideBoost boost) := by
  unfold denoted at h
  cases parsed : parseQueryString text with
  | error fault =>
    rw [parsed] at h
    cases h
  | ok q =>
    rw [parsed] at h
    cases h
    rw [lowerText_of_parse parsed]
    cases boost with
    | none =>
      change q.lower t = _
      cases q.lower t <;> rfl
    | some b => exact parse_lower_setBoost parsed t b

theorem booleanPlan_carry {t : Target} {f : String → Except PlanError Plan}
    {must should mustNot : Option Query} {m s n : Option Plan}
    (hm : lowerSlot t f must = .ok m) (hs : lowerSlot t f should = .ok s)
    (hn : lowerSlot t f mustNot = .ok n) (boost : Option Float) :
    booleanPlan (carrySlot must m) (carrySlot should s) (carrySlot mustNot n) boost t.options =
      (Query.boolean must should mustNot boost).carryBoosts
        (booleanPlan m s n boost t.options) := by
  rcases lowerSlot_cases hm with ⟨rfl, rfl⟩ | ⟨_, _, rfl, rfl⟩ <;>
    rcases lowerSlot_cases hs with ⟨rfl, rfl⟩ | ⟨_, _, rfl, rfl⟩ <;>
      rcases lowerSlot_cases hn with ⟨rfl, rfl⟩ | ⟨_, _, rfl, rfl⟩ <;> rfl

section Carried
variable (t : Target)

mutual

/-- Expansion changes the plan of a query by the boosts that it carries over, and by no more. -/
theorem lowerTree_replaceTexts : ∀ q e : Query, q.replaceTexts denoted = .ok e →
    e.lowerTree t (lowerText t) = (q.lowerTree t (lowerText t)).map q.carryBoosts
  | .onField c field boost, e, h => by
    rw [replaceTexts] at h
    cases h
    rw [lowerTree]
    cases c.lower t (t.resolve field) boost <;> rfl
  | .documents ids boost, e, h => by
    rw [replaceTexts] at h
    cases h
    rfl
  | .everything boost, e, h => by
    rw [replaceTexts] at h
    cases h
    rfl
  | .nothing boost, e, h => by
    rw [replaceTexts] at h
    cases h
    rfl
  | .queryString text boost, e, h => by
    rw [replaceTexts] at h
    rw [lowerTree]
    exact denoted_lower h t
  | .conjunction cs boost, e, h => by
    obtain ⟨es, hes, rfl⟩ := replaceTexts_conjunction.1 h
    rw [lowerTree, lowerTree, replaceEach_isEmpty hes, lowerEach_replaceEach .conjunct 0 cs es hes]
    cases cs.isEmpty with
    | true => rfl
    | false => cases lowerEach t (lowerText t) cs <;> rfl
  | .disjunction ds min boost, e, h => by
    obtain ⟨es, hes, rfl⟩ := replaceTexts_disjunction.1 h
    rw [lowerTree, lowerTree, replaceEach_length hes, replaceEach_isEmpty hes,
      lowerEach_replaceEach .disjunct 0 ds es hes]
    cases valid (checkClauses ds.length min) with
    | error e => rfl
    | ok _ =>
      cases ds.isEmpty with
      | true => rfl
      | false => cases lowerEach t (lowerText t) ds <;> rfl
  | .boolean must should mustNot boost, e, h => by
    obtain ⟨m, s, n, hm, hs, hn, rfl⟩ := replaceTexts_boolean.1 h
    rw [lowerTree, lowerTree, lowerSlot_replaceSlot .must must m hm,
      lowerSlot_replaceSlot .should should s hs, lowerSlot_replaceSlot .mustNot mustNot n hn]
    cases lm : lowerSlot t (lowerText t) must with
    | error e => rfl
    | ok pm =>
      cases ls : lowerSlot t (lowerText t) should with
      | error e => rfl
      | ok ps =>
        cases ln : lowerSlot t (lowerText t) mustNot with
        | error e => rfl
        | ok pn => exact congrArg Except.ok (booleanPlan_carry lm ls ln boost)

theorem lowerEach_replaceEach (step : Nat → Step) (place : Nat) :
    ∀ qs es : List Query, replaceEach denoted step place qs = .ok es →
      lowerEach t (lowerText t) es = (lowerEach t (lowerText t) qs).map (carryEach qs)
  | [], es, h => by
    obtain rfl := replaceEach_nil.1 h
    rfl
  | q :: rest, es, h => by
    obtain ⟨e, es, he, hes, rfl⟩ := replaceEach_cons.1 h
    rw [lowerEach, lowerEach, lowerTree_replaceTexts q e he,
      lowerEach_replaceEach step (place + 1) rest es hes]
    cases q.lowerTree t (lowerText t) with
    | error e => rfl
    | ok p => cases lowerEach t (lowerText t) rest <;> rfl

theorem lowerSlot_replaceSlot (step : Step) : ∀ slot e : Option Query,
    replaceSlot denoted step slot = .ok e →
      lowerSlot t (lowerText t) e = (lowerSlot t (lowerText t) slot).map (carrySlot slot)
  | none, e, h => by
    obtain rfl := replaceSlot_none.1 h
    rfl
  | some q, e, h => by
    obtain ⟨e, he, rfl⟩ := replaceSlot_some.1 h
    rw [lowerSlot, lowerSlot, lowerTree_replaceTexts q e he]
    cases q.lowerTree t (lowerText t) <;> rfl

end

end Carried

theorem lower_expand {q e : Query} (h : q.expand = .ok e) (t : Target) :
    e.lower t = (q.lower t).map q.carryBoosts := by
  rw [expand_eq] at h
  exact lowerTree_replaceTexts t q e h

section Kept
variable {t : Target}

mutual

/-- Nothing is carried over exactly when no query string has a boost to carry. -/
theorem carryBoosts_eq_self : ∀ (q : Query) (p : Plan), q.lowerTree t (lowerText t) = .ok p →
    (q.carryBoosts p = p ↔ q.Everywhere KeepsBoost)
  | .onField .., p, _ => by
    cases p <;> exact iff_of_true rfl trivial
  | .documents .., p, _ => by
    cases p <;> exact iff_of_true rfl trivial
  | .everything .., p, _ => by
    cases p <;> exact iff_of_true rfl trivial
  | .nothing .., p, _ => by
    cases p <;> exact iff_of_true rfl trivial
  | .queryString text boost, p, h => by
    rw [lowerTree] at h
    cases boost with
    | none => exact iff_of_true rfl trivial
    | some b =>
      have hp : p.boost = defaultBoost := lowerText_boost h
      change p.setBoost b = p ↔ b = defaultBoost
      rw [Plan.setBoost_eq_self, hp]
  | .conjunction cs boost, p, h => by
    have own : KeepsBoost (.conjunction cs boost) := trivial
    rw [Everywhere, and_iff_right own]
    obtain ⟨rfl, rfl⟩ | ⟨-, ps, each, rfl⟩ := lowerTree_conjunction.1 h
    · exact iff_of_true rfl trivial
    · rw [carryBoosts, ← carryEach_eq_self cs ps each]
      simp
  | .disjunction ds min boost, p, h => by
    have own : KeepsBoost (.disjunction ds min boost) := trivial
    rw [Everywhere, and_iff_right own]
    obtain ⟨-, ⟨rfl, rfl⟩ | ⟨-, ps, each, rfl⟩⟩ := lowerTree_disjunction.1 h
    · exact iff_of_true rfl trivial
    · rw [carryBoosts, ← carryEach_eq_self ds ps each]
      simp
  | .boolean must should mustNot boost, p, h => by
    obtain ⟨m, s, n, hm, hs, hn, rfl⟩ := lowerTree_boolean.1 h
    have own : KeepsBoost (.boolean must should mustNot boost) := trivial
    rw [Everywhere, and_iff_right own, ← carrySlot_eq_self must m hm,
      ← carrySlot_eq_self should s hs, ← carrySlot_eq_self mustNot n hn]
    rcases lowerSlot_cases hm with ⟨rfl, rfl⟩ | ⟨_, _, rfl, rfl⟩ <;>
      rcases lowerSlot_cases hs with ⟨rfl, rfl⟩ | ⟨_, _, rfl, rfl⟩ <;>
        rcases lowerSlot_cases hn with ⟨rfl, rfl⟩ | ⟨_, _, rfl, rfl⟩ <;>
          simp [booleanPlan, carryBoosts, carrySlot, Plan.nothing, Plan.ofCondition]

theorem carryEach_eq_self : ∀ (qs : List Query) (ps : List Plan),
    lowerEach t (lowerText t) qs = .ok ps → (carryEach qs ps = ps ↔ EverywhereIn KeepsBoost qs)
  | [], ps, h => by
    obtain rfl := lowerEach_nil.1 h
    exact iff_of_true rfl trivial
  | q :: rest, ps, h => by
    obtain ⟨p, ps, hp, hps, rfl⟩ := lowerEach_cons.1 h
    rw [carryEach, EverywhereIn, List.cons.injEq, carryBoosts_eq_self q p hp,
      carryEach_eq_self rest ps hps]

theorem carrySlot_eq_self : ∀ (slot : Option Query) (p : Option Plan),
    lowerSlot t (lowerText t) slot = .ok p →
      (carrySlot slot p = p ↔ EverywhereSlot KeepsBoost slot)
  | none, p, h => by
    obtain rfl := lowerSlot_none.1 h
    exact iff_of_true rfl trivial
  | some q, p, h => by
    obtain ⟨p, rfl, hp⟩ := lowerSlot_some.1 h
    rw [carrySlot, EverywhereSlot, Option.some.injEq, carryBoosts_eq_self q p hp]

end

end Kept

/-- Compiling an expanded query gives the plan of the query itself with the boosts of its query
strings carried over.  So the two agree exactly when the query has no plan for another reason, or
no query string has a boost other than the default. -/
theorem compile_expand {q e : Query} (h : q.expand = .ok e) (context : Context) (t : Target) :
    e.compile context t = (q.compile context t).map q.carryBoosts ∧
    (q.compile context t = e.compile context t ↔
      (∃ fault, q.compile context t = .error fault) ∨ q.Everywhere KeepsBoost) := by
  have carried : e.compile context t = (q.compile context t).map q.carryBoosts := by
    unfold compile
    cases context.check with
    | error fault => rfl
    | ok _ => exact lower_expand h t
  refine ⟨carried, ?_⟩
  rw [carried]
  cases compiled : q.compile context t with
  | error fault => exact iff_of_true rfl (.inl ⟨fault, rfl⟩)
  | ok p =>
    obtain ⟨-, -, lowered⟩ := bind_eq_ok.1 compiled
    have kept := carryBoosts_eq_self q p lowered
    constructor
    · intro same
      have same : p = q.carryBoosts p := by
        injection same
      exact .inr (kept.1 same.symm)
    · rintro (⟨fault, hp⟩ | everywhere)
      · cases hp
      · exact congrArg Except.ok (kept.2 everywhere).symm

theorem compile_expand_nested :
    let word : Query := .disjunction [.onField (.text "rust" none none none none) "" none] (some 1)
      none
    let q : Query := .conjunction [.queryString "rust" (some 3)] none
    let e : Query := .conjunction [.boolean none (some word) none (some 3)] none
    let t : Target := ⟨fun _ => [], Schema.initial.mapping, {}⟩
    q.expand = .ok e ∧ e.compile {} t = (q.compile {} t).map q.carryBoosts := by
  intro word q e t
  have expanded : q.expand = .ok e := by
    rw [expand_eq]
    with_unfolding_all rfl
  exact ⟨expanded, (compile_expand expanded {} t).1⟩

/-- A word with a boost of three weighs one unless it is expanded first. -/
theorem compile_expand_loses_boost :
    let word : Query := .disjunction [.onField (.text "rust" none none none none) "" none] (some 1)
      none
    let q : Query := .queryString "rust" (some 3)
    let e : Query := .boolean none (some word) none (some 3)
    let t : Target := ⟨fun _ => [], Schema.initial.mapping, {}⟩
    q.expand = .ok e ∧ (q.compile {} t).map Plan.boost = .ok defaultBoost ∧
      (e.compile {} t).map Plan.boost = .ok 3 ∧ q.compile {} t ≠ e.compile {} t := by
  intro word q e t
  have parsed : parseQueryString "rust" = .ok (.boolean none (some word) none none) := by
    with_unfolding_all rfl
  have expanded : q.expand = .ok e := by
    rw [expand_eq, replaceTexts, denoted, parsed]
    rfl
  have unexpanded : (q.compile {} t).map Plan.boost = .ok defaultBoost := by
    change (lowerText t "rust").map Plan.boost = _
    rw [lowerText_of_parse parsed]
    rfl
  have boosted : (e.compile {} t).map Plan.boost = .ok 3 := rfl
  refine ⟨expanded, unexpanded, boosted, ?_⟩
  intro same
  rw [same, boosted] at unexpanded
  injection unexpanded with equal
  exact absurd equal (by decide)

end Query

end SearchQuery
