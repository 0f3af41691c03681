import SearchQuery.Proofs.Plan.Lowered
import SearchQuery.Proofs.Query.Places

/-!
# Nodes of plans

Every node of a plan carries the options of the search, and what it asks of the dictionary or of
identifiers is a sorted list (`Plan.IsBuilt`).  A node of a query gives a node of the plan, which has
the boost of the query node or matches nothing.
-/

set_option autoImplicit false
namespace SearchQuery

namespace Plan

def children : Plan → List Plan
  | leaf _ _ _ => []
  | conjunction cs _ _ => cs
  | disjunction ds _ _ _ => ds
  | boolean must should mustNot _ _ => must.toList ++ should.toList ++ mustNot.toList

/-- The nodes of a plan: its root and the nodes of the plans below. -/
inductive HasNode : Plan → Plan → Prop
  | root (p : Plan) : HasNode p p
  | inside {p c n : Plan} (child : c ∈ p.children) (node : HasNode c n) : HasNode p n

def EveryNode (P : Plan → Prop) (p : Plan) : Prop := ∀ n, p.HasNode n → P n

theorem everyNode_iff {P : Plan → Prop} {p : Plan} :
    p.EveryNode P ↔ P p ∧ ∀ c ∈ p.children, c.EveryNode P := by
  constructor
  · intro h
    exact ⟨h p (.root p), fun c child n node => h n (.inside child node)⟩
  · rintro ⟨own, others⟩ n node
    cases node with
    | root => exact own
    | inside child node => exact others _ child n node

def condition? : Plan → Option Condition
  | leaf c _ _ => some c
  | _ => none

end Plan

/-- The terms of a set are some of the dictionary's in its order; slots and identifiers ascend. -/
def Condition.IsDrawn (terms : String → List String) : Condition → Prop
  | .anyTerm field chosen => chosen.Sublist (terms field)
  | .phrase _ slots => ∀ slot ∈ slots, slot.Pairwise (· < ·)
  | .documents ids => ids.Pairwise (· < ·)
  | _ => True

structure Plan.IsBuilt (t : Target) (n : Plan) : Prop where
  options : n.options = t.options
  drawn : ∀ c ∈ n.condition?, c.IsDrawn t.terms

namespace Plan.IsBuilt
variable {t : Target} {boost : Option Float}

theorem leaf {c : Condition} (h : c.IsDrawn t.terms) :
    (Plan.ofCondition c boost t.options).EveryNode (IsBuilt t) := by
  refine everyNode_iff.2 ⟨⟨rfl, ?_⟩, ?_⟩
  · intro d same
    cases same
    exact h
  · intro p child
    cases child

theorem nothing : (Plan.nothing t.options).EveryNode (IsBuilt t) := leaf trivial

theorem composite {p : Plan} (options : p.options = t.options) (composite : p.condition? = none)
    (h : ∀ c ∈ p.children, c.EveryNode (IsBuilt t)) : p.EveryNode (IsBuilt t) := by
  refine everyNode_iff.2 ⟨⟨options, ?_⟩, h⟩
  rw [composite]
  intro c none
  cases none

end Plan.IsBuilt

/-- The plans that a criterion may have: nothing, one condition with the boost of the node, or
several conditions under a root with that boost. -/
inductive Criterion.Lowered (t : Target) (boost : Option Float) : Plan → Prop
  | nothing : Lowered t boost (.nothing t.options)
  | single {c : Condition} (drawn : c.IsDrawn t.terms) :
    Lowered t boost (.ofCondition c boost t.options)
  | any {cs : List Condition} (drawn : ∀ c ∈ cs, c.IsDrawn t.terms) :
    Lowered t boost (.disjunction (cs.map (.ofCondition · none t.options)) 1
      (boost.getD Query.defaultBoost) t.options)
  | all {cs : List Condition} (drawn : ∀ c ∈ cs, c.IsDrawn t.terms) :
    Lowered t boost (.conjunction (cs.map (.ofCondition · none t.options))
      (boost.getD Query.defaultBoost) t.options)

namespace Criterion.Lowered
variable {t : Target} {boost : Option Float}

theorem chosen {field : String} {terms : List String} (h : terms.Sublist (t.terms field)) :
    Lowered t boost (.anyTerm field terms boost t.options) := by
  unfold Plan.anyTerm
  split
  · exact .nothing
  · exact .single h

theorem isBuilt {p : Plan} (h : Lowered t boost p) : p.EveryNode (Plan.IsBuilt t) := by
  cases h with
  | nothing => exact Plan.IsBuilt.nothing
  | single drawn => exact Plan.IsBuilt.leaf drawn
  | any drawn =>
    exact Plan.IsBuilt.composite rfl rfl
      (List.forall_mem_map.2 fun c mem => Plan.IsBuilt.leaf (drawn c mem))
  | all drawn =>
    exact Plan.IsBuilt.composite rfl rfl
      (List.forall_mem_map.2 fun c mem => Plan.IsBuilt.leaf (drawn c mem))

theorem boost_root {p : Plan} (h : Lowered t boost p) :
    p.boost = boost.getD Query.defaultBoost ∨ p.isNothing = true := by
  cases h with
  | nothing => exact .inr rfl
  | single => exact .inl rfl
  | any => exact .inl rfl
  | all => exact .inl rfl

end Criterion.Lowered

theorem termCondition_isDrawn (t : Target) (field : String) (prefixLength : Nat)
    (fuzziness : Fuzziness) (word : String) :
    (termCondition t field prefixLength fuzziness word).IsDrawn t.terms := by
  unfold termCondition
  dsimp only
  split
  · trivial
  · exact List.filter_sublist

theorem textPlan_lowered (t : Target) (field : String) (prefixLength : Nat) (fuzziness : Fuzziness)
    (operator : Operator) (boost : Option Float) (tokens : List Token) :
    Criterion.Lowered t boost
      (textPlan t field prefixLength fuzziness operator boost tokens) := by
  let condition (token : Token) := termCondition t field prefixLength fuzziness token.term
  have drawn : ∀ c ∈ tokens.map condition, c.IsDrawn t.terms :=
    List.forall_mem_map.2 fun _ _ => termCondition_isDrawn ..
  cases tokens with
  | nil => exact .nothing
  | cons token rest =>
    cases rest with
    | nil => exact .single (termCondition_isDrawn ..)
    | cons _ _ =>
      cases operator with
      | or =>
        have lowered : Criterion.Lowered t boost _ := .any drawn
        rw [List.map_map] at lowered
        exact lowered
      | and =>
        have lowered : Criterion.Lowered t boost _ := .all drawn
        rw [List.map_map] at lowered
        exact lowered

theorem phrase_isDrawn (t : Target) (field : String) (fuzziness : Fuzziness)
    (positions : List (List String)) :
    (Condition.phrase field (positions.map (slot t field fuzziness))).IsDrawn t.terms := by
  intro s mem
  obtain ⟨terms, -, rfl⟩ := List.mem_map.1 mem
  exact (TermSet.ofList _).ascending

theorem Criterion.lower_lowered {t : Target} {field : String} {boost : Option Float} {c : Criterion}
    {p : Plan} (h : c.lower t field boost = .ok p) : Lowered t boost p := by
  cases c with
  | term word =>
    cases h
    exact .single trivial
  | stem start =>
    cases h
    exact .chosen List.filter_sublist
  | regexp | wildcard | termRange =>
    obtain ⟨r, -, h⟩ := bind_eq_ok.1 h
    cases h
    exact .chosen List.filter_sublist
  | fuzzy word prefixLength fuzziness =>
    obtain ⟨-, -, h⟩ := bind_eq_ok.1 h
    dsimp only at h
    split at h
    · cases h
      exact .single trivial
    · cases h
      exact .chosen List.filter_sublist
  | text words analyzer prefixLength fuzziness operator =>
    obtain ⟨-, -, h⟩ := bind_eq_ok.1 h
    obtain ⟨analyze, -, h⟩ := bind_eq_ok.1 h
    cases h
    exact textPlan_lowered ..
  | textPhrase words analyzer fuzziness =>
    obtain ⟨-, -, h⟩ := bind_eq_ok.1 h
    obtain ⟨analyze, -, h⟩ := bind_eq_ok.1 h
    dsimp only at h
    split at h
    · cases h
      exact .nothing
    · cases h
      exact .single (phrase_isDrawn t field _ _)
  | phrase terms fuzziness =>
    obtain ⟨-, -, h⟩ := bind_eq_ok.1 h
    cases h
    refine .single fun s mem => ?_
    obtain ⟨word, -, rfl⟩ := List.mem_map.1 mem
    exact (TermSet.ofList _).ascending
  | multiPhrase terms fuzziness =>
    obtain ⟨-, -, h⟩ := bind_eq_ok.1 h
    cases h
    exact .single (phrase_isDrawn t field _ _)
  | flag =>
    obtain ⟨-, -, h⟩ := bind_eq_ok.1 h
    cases h
    exact .single trivial
  | numericRange | geoBox | geoDistance | geoPolygon | geoShape | network =>
    obtain ⟨x, -, h⟩ := bind_eq_ok.1 h
    obtain ⟨-, -, h⟩ := bind_eq_ok.1 h
    cases h
    exact .single trivial
  | dateRange b parser =>
    obtain ⟨-, -, h⟩ := bind_eq_ok.1 h
    obtain ⟨layouts, -, h⟩ := bind_eq_ok.1 h
    obtain ⟨dates, -, h⟩ := bind_eq_ok.1 h
    cases h
    exact .single trivial

theorem documentsPlan_cases (ids : List String) (boost : Option Float) (options : Options) :
    documentsPlan ids boost options = .nothing options ∨
      documentsPlan ids boost options =
        .ofCondition (.documents (TermSet.ofList ids).toList) boost options := by
  unfold documentsPlan
  dsimp only
  split
  · exact .inl rfl
  · exact .inr rfl

/-- A boolean query of slots is nothing, or has the plans of its slots below it; beside exclusions
alone stands a node for all documents. -/
theorem booleanPlan_cases (must should mustNot : Option Plan) (boost : Option Float)
    (options : Options) :
    (booleanPlan must should mustNot boost options = .nothing options ∧
      must = none ∧ should = none ∧ mustNot = none) ∨
    ∃ first, booleanPlan must should mustNot boost options =
        .boolean first should mustNot (boost.getD Query.defaultBoost) options ∧
      (first = must ∨ must = none ∧ first = some (.ofCondition .everything none options)) := by
  cases must with
  | some m => exact .inr ⟨some m, rfl, .inl rfl⟩
  | none =>
    cases should with
    | some s => exact .inr ⟨none, rfl, .inl rfl⟩
    | none =>
      cases mustNot with
      | none => exact .inl ⟨rfl, rfl, rfl, rfl⟩
      | some n => exact .inr ⟨_, rfl, .inr ⟨rfl, rfl⟩⟩

theorem booleanPlan_isBuilt {t : Target} {must should mustNot : Option Plan} {boost : Option Float}
    (hm : ∀ p ∈ must, p.EveryNode (Plan.IsBuilt t))
    (hs : ∀ p ∈ should, p.EveryNode (Plan.IsBuilt t))
    (hn : ∀ p ∈ mustNot, p.EveryNode (Plan.IsBuilt t)) :
    (booleanPlan must should mustNot boost t.options).EveryNode (Plan.IsBuilt t) := by
  rcases booleanPlan_cases must should mustNot boost t.options with ⟨same, -⟩ | ⟨first, same, own⟩
  · rw [same]
    exact Plan.IsBuilt.nothing
  · rw [same]
    refine Plan.IsBuilt.composite rfl rfl fun c child => ?_
    simp only [Plan.children, List.mem_append, Option.mem_toList] at child
    rcases child with (child | child) | child
    · rcases own with rfl | ⟨-, rfl⟩
      · exact hm c child
      · cases child
        exact Plan.IsBuilt.leaf trivial
    · exact hs c child
    · exact hn c child

namespace Query

section Trees
variable {t : Target} {onText : String → Except PlanError Plan}

mutual

theorem lowerTree_isBuilt (hText : ∀ text p, onText text = .ok p → p.EveryNode (Plan.IsBuilt t)) :
    ∀ (q : Query) (p : Plan), q.lowerTree t onText = .ok p → p.EveryNode (Plan.IsBuilt t)
  | .onField c field boost, p, h => by
    rw [lowerTree] at h
    exact (Criterion.lower_lowered h).isBuilt
  | .documents ids boost, p, h => by
    rw [lowerTree] at h
    cases h
    rcases documentsPlan_cases ids boost t.options with same | same
    · rw [same]
      exact Plan.IsBuilt.nothing
    · rw [same]
      exact Plan.IsBuilt.leaf (TermSet.ofList ids).ascending
  | .everything boost, p, h => by
    rw [lowerTree] at h
    cases h
    exact Plan.IsBuilt.leaf trivial
  | .nothing boost, p, h => by
    rw [lowerTree] at h
    cases h
    exact Plan.IsBuilt.leaf trivial
  | .queryString text boost, p, h => by
    rw [lowerTree] at h
    exact hText text p h
  | .conjunction cs boost, p, h => by
    obtain ⟨-, rfl⟩ | ⟨-, ps, each, rfl⟩ := lowerTree_conjunction.1 h
    · exact Plan.IsBuilt.nothing
    · exact Plan.IsBuilt.composite rfl rfl (lowerEach_isBuilt hText cs ps each)
  | .disjunction ds min boost, p, h => by
    obtain ⟨-, ⟨-, rfl⟩ | ⟨-, ps, each, rfl⟩⟩ := lowerTree_disjunction.1 h
    · exact Plan.IsBuilt.nothing
    · exact Plan.IsBuilt.composite rfl rfl (lowerEach_isBuilt hText ds ps each)
  | .boolean must should mustNot boost, p, h => by
    obtain ⟨m, s, n, hm, hs, hn, rfl⟩ := lowerTree_boolean.1 h
    exact booleanPlan_isBuilt (lowerSlot_isBuilt hText must m hm)
      (lowerSlot_isBuilt hText should s hs) (lowerSlot_isBuilt hText mustNot n hn)

theorem lowerEach_isBuilt (hText : ∀ text p, onText text = .ok p → p.EveryNode (Plan.IsBuilt t)) :
    ∀ (qs : List Query) (ps : List Plan), lowerEach t onText qs = .ok ps →
      ∀ p ∈ ps, p.EveryNode (Plan.IsBuilt t)
  | [], ps, h => by
    obtain rfl := lowerEach_nil.1 h
    exact List.forall_mem_nil _
  | q :: rest, ps, h => by
    obtain ⟨p, ps, hp, hps, rfl⟩ := lowerEach_cons.1 h
    exact List.forall_mem_cons.2
      ⟨lowerTree_isBuilt hText q p hp, lowerEach_isBuilt hText rest ps hps⟩

theorem lowerSlot_isBuilt (hText : ∀ text p, onText text = .ok p → p.EveryNode (Plan.IsBuilt t)) :
    ∀ (slot : Option Query) (p : Option Plan), lowerSlot t onText slot = .ok p →
      ∀ r ∈ p, r.EveryNode (Plan.IsBuilt t)
  | none, p, h => by
    obtain rfl := lowerSlot_none.1 h
    intro r none
    cases none
  | some q, p, h => by
    obtain ⟨p, rfl, hp⟩ := lowerSlot_some.1 h
    rintro r ⟨⟩
    exact lowerTree_isBuilt hText q p hp

end

theorem lowerTree_boost {q : Query} {p : Plan} (structured : q.IsStructured)
    (h : q.lowerTree t onText = .ok p) : p.boost = q.boost ∨ p.isNothing = true := by
  cases q with
  | onField c field boost =>
    rw [lowerTree] at h
    exact (Criterion.lower_lowered h).boost_root
  | documents ids boost =>
    rw [lowerTree] at h
    cases h
    rcases documentsPlan_cases ids boost t.options with same | same
    · rw [same]
      exact .inr rfl
    · rw [same]
      exact .inl rfl
  | everything boost =>
    rw [lowerTree] at h
    cases h
    exact .inl rfl
  | nothing boost =>
    rw [lowerTree] at h
    cases h
    exact .inr rfl
  | queryString => exact structured.elim
  | conjunction cs boost =>
    obtain ⟨-, rfl⟩ | ⟨-, ps, -, rfl⟩ := lowerTree_conjunction.1 h
    · exact .inr rfl
    · exact .inl rfl
  | disjunction ds min boost =>
    obtain ⟨-, ⟨-, rfl⟩ | ⟨-, ps, -, rfl⟩⟩ := lowerTree_disjunction.1 h
    · exact .inr rfl
    · exact .inl rfl
  | boolean must should mustNot boost =>
    obtain ⟨m, s, n, -, -, -, rfl⟩ := lowerTree_boolean.1 h
    rcases booleanPlan_cases m s n boost t.options with ⟨same, -⟩ | ⟨first, same, -⟩
    · rw [same]
      exact .inr rfl
    · rw [same]
      exact .inl rfl

theorem lowerEach_getElem? {qs : List Query} {ps : List Plan} (h : lowerEach t onText qs = .ok ps)
    {i : Nat} {c : Query} (child : qs[i]? = some c) :
    ∃ p ∈ ps, c.lowerTree t onText = .ok p := by
  induction qs generalizing ps i with
  | nil => cases child
  | cons q rest ih =>
    obtain ⟨p, ps, first, others, rfl⟩ := lowerEach_cons.1 h
    cases i with
    | zero =>
      cases child
      exact ⟨p, List.mem_cons_self, first⟩
    | succ i =>
      obtain ⟨r, mem, lowered⟩ := ih others child
      exact ⟨r, List.mem_cons_of_mem _ mem, lowered⟩

theorem lowerTree_child {q c : Query} {p : Plan} {step : Step} (child : q.child? step = some c)
    (h : q.lowerTree t onText = .ok p) :
    ∃ r ∈ p.children, c.lowerTree t onText = .ok r := by
  cases q with
  | conjunction cs boost =>
    obtain ⟨i, rfl, place⟩ := child?_conjunction.1 child
    obtain ⟨rfl, -⟩ | ⟨-, ps, each, rfl⟩ := lowerTree_conjunction.1 h
    · cases place
    · exact lowerEach_getElem? each place
  | disjunction ds min boost =>
    obtain ⟨i, rfl, place⟩ := child?_disjunction.1 child
    obtain ⟨-, ⟨rfl, -⟩ | ⟨-, ps, each, rfl⟩⟩ := lowerTree_disjunction.1 h
    · cases place
    · exact lowerEach_getElem? each place
  | boolean must should mustNot boost =>
    obtain ⟨m, s, n, hm, hs, hn, rfl⟩ := lowerTree_boolean.1 h
    -- A slot that is taken is never replaced, nor is the plan nothing then.
    rcases booleanPlan_cases m s n boost t.options with ⟨-, rfl, rfl, rfl⟩ | ⟨first, same, own⟩
    · cases step with
      | conjunct | disjunct => cases child
      | must =>
        cases child
        obtain ⟨r, none, -⟩ := lowerSlot_some.1 hm
        cases none
      | should =>
        cases child
        obtain ⟨r, none, -⟩ := lowerSlot_some.1 hs
        cases none
      | mustNot =>
        cases child
        obtain ⟨r, none, -⟩ := lowerSlot_some.1 hn
        cases none
    · rw [same]
      cases step with
      | conjunct | disjunct => cases child
      | must =>
        cases child
        obtain ⟨r, rfl, lowered⟩ := lowerSlot_some.1 hm
        rcases own with rfl | ⟨none, -⟩
        · exact ⟨r, by simp [Plan.children], lowered⟩
        · cases none
      | should =>
        cases child
        obtain ⟨r, rfl, lowered⟩ := lowerSlot_some.1 hs
        exact ⟨r, by simp [Plan.children], lowered⟩
      | mustNot =>
        cases child
        obtain ⟨r, rfl, lowered⟩ := lowerSlot_some.1 hn
        exact ⟨r, by simp [Plan.children], lowered⟩
  | _ => cases step <;> cases child

/-- Each node of a query has a plan among the nodes of the plan. -/
theorem lowerTree_nodeAt {q m : Query} {p : Plan} {path : List Step}
    (node : q.nodeAt? path = some m) (h : q.lowerTree t onText = .ok p) :
    ∃ r, p.HasNode r ∧ m.lowerTree t onText = .ok r := by
  induction path generalizing q p with
  | nil =>
    cases node
    exact ⟨p, .root p, h⟩
  | cons step path ih =>
    obtain ⟨c, child, node⟩ := nodeAt?_cons_eq_some.1 node
    obtain ⟨r, below, lowered⟩ := lowerTree_child child h
    obtain ⟨s, node, lowered⟩ := ih node lowered
    exact ⟨s, .inside below node, lowered⟩

end Trees

theorem anyQueryString_mem {qs : List Query} (h : anyQueryString qs = false) {q : Query}
    (mem : q ∈ qs) : q.hasQueryString = false := by
  induction qs with
  | nil => cases mem
  | cons r rest ih =>
    rw [anyQueryString, Bool.or_eq_false_iff] at h
    rcases List.mem_cons.1 mem with rfl | mem
    · exact h.1
    · exact ih h.2 mem

theorem hasQueryString_child {q c : Query} {step : Step} (child : q.child? step = some c)
    (h : q.hasQueryString = false) : c.hasQueryString = false := by
  cases q with
  | conjunction cs boost =>
    obtain ⟨i, rfl, place⟩ := child?_conjunction.1 child
    exact anyQueryString_mem h (List.mem_of_getElem? place)
  | disjunction ds min boost =>
    obtain ⟨i, rfl, place⟩ := child?_disjunction.1 child
    exact anyQueryString_mem h (List.mem_of_getElem? place)
  | boolean must should mustNot boost =>
    rw [hasQueryString, Bool.or_eq_false_iff, Bool.or_eq_false_iff] at h
    cases step with
    | conjunct | disjunct => cases child
    | must => cases child; exact h.1.1
    | should => cases child; exact h.1.2
    | mustNot => cases child; exact h.2
  | _ => cases step <;> cases child

theorem hasQueryString_nodeAt {q m : Query} {path : List Step} (node : q.nodeAt? path = some m)
    (h : q.hasQueryString = false) : m.IsStructured := by
  induction path generalizing q with
  | nil =>
    cases node
    cases m with
    | queryString => cases h
    | _ => trivial
  | cons step path ih =>
    obtain ⟨c, child, node⟩ := nodeAt?_cons_eq_some.1 node
    exact ih node (hasQueryString_child child h)

theorem lowerText_isBuilt {t : Target} (text : String) (p : Plan) (h : lowerText t text = .ok p) :
    p.EveryNode (Plan.IsBuilt t) := by
  unfold lowerText at h
  cases parsed : parseQueryString text with
  | error e =>
    rw [parsed] at h
    cases h
  | ok q =>
    rw [parsed] at h
    refine lowerTree_isBuilt ?_ q p h
    rintro - p ⟨⟩
    exact Plan.IsBuilt.nothing

theorem compile_isBuilt {context : Context} {t : Target} {q : Query} {p : Plan}
    (h : q.compile context t = .ok p) : p.EveryNode (Plan.IsBuilt t) := by
  obtain ⟨-, -, lowered⟩ := bind_eq_ok.1 h
  exact lowerTree_isBuilt lowerText_isBuilt q p lowered

/-- All nodes of a plan carry the options of the search.  In a query without query strings each node
has a plan among the nodes of the whole, whose root has the boost of the node or matches nothing. -/
theorem compile_carries {context : Context} {t : Target} {q : Query} {p : Plan}
    (h : q.compile context t = .ok p) :
    (∀ n, p.HasNode n → n.options = t.options) ∧
    (q.hasQueryString = false → ∀ path m, q.nodeAt? path = some m →
      ∃ r, m.compile context t = .ok r ∧ p.HasNode r ∧
        (r.boost = m.boost ∨ r.isNothing = true)) := by
  refine ⟨fun n node => (compile_isBuilt h n node).options, fun structured path m node => ?_⟩
  obtain ⟨running, checked, lowered⟩ := bind_eq_ok.1 h
  obtain ⟨r, below, lowered⟩ := lowerTree_nodeAt node lowered
  exact ⟨r, bind_eq_ok.2 ⟨running, checked, lowered⟩, below,
    lowerTree_boost (hasQueryString_nodeAt node structured) lowered⟩

/-- Exclusions alone stand beside a node for all documents, which has the options too. -/
theorem compile_carries_excluded :
    let t : Target := ⟨fun _ => [], Schema.initial.mapping, { explain := true }⟩
    let word : Query := .onField (.term "go") "tag" (some 3)
    let q : Query := .conjunction [.boolean none none (some word) (some 2), .everything none] none
    let everything : Plan := .leaf .everything defaultBoost t.options
    let excluded : Plan := .leaf (.term "tag" "go") 3 t.options
    let p : Plan := .conjunction [.boolean (some everything) none (some excluded) 2 t.options,
      everything] defaultBoost t.options
    q.compile {} t = .ok p ∧ q.hasQueryString = false ∧
      q.nodeAt? [.conjunct 0, .mustNot] = some word ∧
      (∀ n, p.HasNode n → n.options = t.options) ∧
      ∃ r, word.compile {} t = .ok r ∧ p.HasNode r ∧
        (r.boost = word.boost ∨ r.isNothing = true) := by
  intro t word q everything excluded p
  have compiled : q.compile {} t = .ok p := rfl
  have structured : q.hasQueryString = false := rfl
  have node : q.nodeAt? [.conjunct 0, .mustNot] = some word := rfl
  obtain ⟨options, boosts⟩ := compile_carries compiled
  exact ⟨compiled, structured, node, options, boosts structured _ word node⟩

end Query

end SearchQuery
