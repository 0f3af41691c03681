import SearchQuery.Proofs.Plan.Expanded
import SearchQuery.Proofs.Plan.Nodes

/-!
# Where the nodes of plans come from

A node of a plan that asks something of a field belongs to the plan of a query on a field
(`Query.lower_origin`), and every query on a field has its plan within the whole
(`Query.lower_asked`).  Such a query stands in the tree or in the tree of a query string.
-/

set_option autoImplicit false
namespace SearchQuery

namespace Plan

theorem HasNode.trans {p r n : Plan} (h : p.HasNode r) (inner : r.HasNode n) : p.HasNode n := by
  induction h with
  | root => exact inner
  | inside child _ ih => exact .inside child (ih inner)

theorem hasNode_leaf {c : Condition} {boost : Float} {options : Options} {n : Plan}
    (h : HasNode (.leaf c boost options) n) : n = .leaf c boost options := by
  cases h with
  | root => rfl
  | inside child => cases child

end Plan

def Condition.field? : Condition → Option String
  | .term field _ => some field
  | .anyTerm field _ => some field
  | .phrase field _ => some field
  | .numericRange field _ => some field
  | .dateRange field _ => some field
  | .documents _ => none
  | .scored _ => none
  | .geoBox field _ _ => some field
  | .geoDistance field _ _ => some field
  | .geoPolygon field _ => some field
  | .geoShape field _ _ => some field
  | .network field _ => some field
  | .everything => none
  | .nothing => none

/-- The field that a node of a plan names. -/
def Plan.field? (p : Plan) : Option String := p.condition?.bind Condition.field?

namespace Query

/-- What the query asks of fields: at its own nodes and, where a node is a query string, at the
nodes of the query that its text denotes. -/
inductive Asks : Query → Criterion → String → Option Float → Prop
  | node {q : Query} {path : List Step} {c : Criterion} {field : String} {boost : Option Float}
      (h : q.nodeAt? path = some (.onField c field boost)) : Asks q c field boost
  | text {q denoted : Query} {path : List Step} {text : String} {own : Option Float} {c : Criterion}
      {field : String} {boost : Option Float}
      (h : q.nodeAt? path = some (.queryString text own))
      (parsed : parseQueryString text = .ok denoted) (inner : Asks denoted c field boost) :
    Asks q c field boost

section Trees
variable {t : Target} {onText : String → Except PlanError Plan}

theorem lowerEach_mem {qs : List Query} {ps : List Plan} (h : lowerEach t onText qs = .ok ps)
    {r : Plan} (mem : r ∈ ps) : ∃ (i : Nat) (c : Query), qs[i]? = some c ∧
      c.lowerTree t onText = .ok r := by
  induction qs generalizing ps with
  | nil =>
    obtain rfl := lowerEach_nil.1 h
    cases mem
  | cons q rest ih =>
    obtain ⟨p, ps, first, others, rfl⟩ := lowerEach_cons.1 h
    rcases List.mem_cons.1 mem with rfl | mem
    · exact ⟨0, q, rfl, first⟩
    · obtain ⟨i, c, place, lowered⟩ := ih others mem
      exact ⟨i + 1, c, place, lowered⟩

theorem lowerSlot_mem {slot : Option Query} {p : Option Plan}
    (h : lowerSlot t onText slot = .ok p) {r : Plan} (mem : r ∈ p) :
    ∃ c, slot = some c ∧ c.lowerTree t onText = .ok r := by
  cases slot with
  | none =>
    obtain rfl := lowerSlot_none.1 h
    cases mem
  | some c =>
    obtain ⟨s, rfl, lowered⟩ := lowerSlot_some.1 h
    cases mem
    exact ⟨c, rfl, lowered⟩

/-- The plan of a query that is no leaf on a field and no query string names no field at its root,
and below it stand plans of children, or a node for all documents. -/
theorem lowerTree_cases {q : Query} {p : Plan} (h : q.lowerTree t onText = .ok p) :
    (∃ c field boost, q = .onField c field boost) ∨ (∃ text boost, q = .queryString text boost) ∨
    p.field? = none ∧ ∀ r ∈ p.children,
      (∃ step child, q.child? step = some child ∧ child.lowerTree t onText = .ok r) ∨
        r = .ofCondition .everything none t.options := by
  have nothing : (Plan.nothing t.options).field? = none ∧ ∀ r ∈ (Plan.nothing t.options).children,
      (∃ step child, q.child? step = some child ∧ child.lowerTree t onText = .ok r) ∨
        r = .ofCondition .everything none t.options := ⟨rfl, List.forall_mem_nil _⟩
  cases q with
  | onField c field boost => exact .inl ⟨c, field, boost, rfl⟩
  | queryString text boost => exact .inr (.inl ⟨text, boost, rfl⟩)
  | documents ids boost =>
    rw [lowerTree] at h
    cases h
    rcases documentsPlan_cases ids boost t.options with same | same
    · rw [same]
      exact .inr (.inr nothing)
    · rw [same]
      exact .inr (.inr ⟨rfl, List.forall_mem_nil _⟩)
  | everything boost | nothing boost =>
    rw [lowerTree] at h
    cases h
    exact .inr (.inr ⟨rfl, List.forall_mem_nil _⟩)
  | conjunction cs boost =>
    obtain ⟨-, rfl⟩ | ⟨-, ps, each, rfl⟩ := lowerTree_conjunction.1 h
    · exact .inr (.inr nothing)
    · refine .inr (.inr ⟨rfl, fun r child => .inl ?_⟩)
      obtain ⟨i, c, place, lowered⟩ := lowerEach_mem each child
      exact ⟨.conjunct i, c, place, lowered⟩
  | disjunction ds min boost =>
    obtain ⟨-, ⟨-, rfl⟩ | ⟨-, ps, each, rfl⟩⟩ := lowerTree_disjunction.1 h
    · exact .inr (.inr nothing)
    · refine .inr (.inr ⟨rfl, fun r child => .inl ?_⟩)
      obtain ⟨i, c, place, lowered⟩ := lowerEach_mem each child
      exact ⟨.disjunct i, c, place, lowered⟩
  | boolean must should mustNot boost =>
    obtain ⟨m, s, n, hm, hs, hn, rfl⟩ := lowerTree_boolean.1 h
    rcases booleanPlan_cases m s n boost t.options with ⟨same, -⟩ | ⟨first, same, own⟩
    · rw [same]
      exact .inr (.inr nothing)
    · rw [same]
      refine .inr (.inr ⟨rfl, fun r child => ?_⟩)
      simp only [Plan.children, List.mem_append, Option.mem_toList] at child
      rcases child with (child | child) | child
      · rcases own with rfl | ⟨-, rfl⟩
        · obtain ⟨c, rfl, lowered⟩ := lowerSlot_mem hm child
          exact .inl ⟨.must, c, rfl, lowered⟩
        · cases child
          exact .inr rfl
      · obtain ⟨c, rfl, lowered⟩ := lowerSlot_mem hs child
        exact .inl ⟨.should, c, rfl, lowered⟩
      · obtain ⟨c, rfl, lowered⟩ := lowerSlot_mem hn child
        exact .inl ⟨.mustNot, c, rfl, lowered⟩

theorem lowerTree_leaf {q : Query} {p n : Plan} (h : q.lowerTree t onText = .ok p)
    (node : p.HasNode n) (named : n.field? ≠ none) :
    ∃ path leaf r, q.nodeAt? path = some leaf ∧ leaf.lowerTree t onText = .ok r ∧ r.HasNode n ∧
      ((∃ c field boost, leaf = .onField c field boost) ∨
        ∃ text boost, leaf = .queryString text boost) := by
  induction node generalizing q with
  | root p =>
    rcases lowerTree_cases h with leaf | leaf | ⟨unnamed, -⟩
    · exact ⟨[], q, p, rfl, h, .root p, .inl leaf⟩
    · exact ⟨[], q, p, rfl, h, .root p, .inr leaf⟩
    · exact absurd unnamed named
  | @inside p r n child node ih =>
    rcases lowerTree_cases h with leaf | leaf | ⟨-, others⟩
    · exact ⟨[], q, p, rfl, h, .inside child node, .inl leaf⟩
    · exact ⟨[], q, p, rfl, h, .inside child node, .inr leaf⟩
    · rcases others r child with ⟨step, c, below, lowered⟩ | rfl
      · obtain ⟨path, leaf, s, place, rest⟩ := ih lowered named
        exact ⟨step :: path, leaf, s, nodeAt?_cons_eq_some.2 ⟨c, below, place⟩, rest⟩
      · rw [Plan.hasNode_leaf node] at named
        exact absurd rfl named

end Trees

theorem lowerText_eq_ok {t : Target} {text : String} {p : Plan} :
    lowerText t text = .ok p ↔ ∃ q, parseQueryString text = .ok q ∧ q.lower t = .ok p := by
  cases parsed : parseQueryString text with
  | error e => simp [lowerText, parsed]
  | ok q => simp [lowerText_of_parse parsed]

/-- A node that names a field is a node in the plan of something that the query asks. -/
theorem lower_origin {t : Target} {q : Query} {p n : Plan} (h : q.lower t = .ok p)
    (node : p.HasNode n) (named : n.field? ≠ none) :
    ∃ c field boost r, q.Asks c field boost ∧ c.lower t (t.resolve field) boost = .ok r ∧
      r.HasNode n := by
  obtain ⟨path, leaf, r, place, lowered, inner, ⟨c, field, boost, rfl⟩ | ⟨text, own, rfl⟩⟩ :=
    lowerTree_leaf h node named
  · rw [lowerTree] at lowered
    exact ⟨c, field, boost, r, .node place, lowered, inner⟩
  · rw [lowerTree] at lowered
    obtain ⟨denoted, parsed, lowered⟩ := lowerText_eq_ok.1 lowered
    obtain ⟨path', leaf, s, place', lowered, inner, ⟨c, field, boost, rfl⟩ | ⟨text', own', rfl⟩⟩ :=
      lowerTree_leaf lowered inner named
    · rw [lowerTree] at lowered
      exact ⟨c, field, boost, s, .text place parsed (.node place'), lowered, inner⟩
    · -- The grammar writes no query strings.
      exact (hasQueryString_nodeAt place' (parse_hasQueryString parsed)).elim

theorem lower_asked {t : Target} {q : Query} {c : Criterion} {field : String}
    {boost : Option Float} (asks : q.Asks c field boost) {p : Plan} (h : q.lower t = .ok p) :
    ∃ r, c.lower t (t.resolve field) boost = .ok r ∧ p.HasNode r := by
  induction asks generalizing p with
  | node place =>
    obtain ⟨r, node, lowered⟩ := lowerTree_nodeAt place h
    rw [lowerTree] at lowered
    exact ⟨r, lowered, node⟩
  | text place parsed _ ih =>
    obtain ⟨s, node, lowered⟩ := lowerTree_nodeAt place h
    rw [lowerTree, lowerText_of_parse parsed] at lowered
    obtain ⟨r, lowered, inner⟩ := ih lowered
    exact ⟨r, lowered, node.trans inner⟩

end Query

end SearchQuery
