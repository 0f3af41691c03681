import SearchQuery.Proofs.Outcome
import SearchQuery.Proofs.Query.Places

/-!
# Substitution of query strings

What a query denotes when every query string in it stands for what its text is parsed to, without a
limit on how many of them follow one another.
-/

set_option autoImplicit false
namespace SearchQuery.Query

section Relation
variable {ε : Type} (parse : String → Except ε Query)

mutual

/-- The second query is the first one with what its query strings denote in their place.  All other
nodes stay as they are. -/
inductive Expands : Query → Query → Prop
  | onField (c : Criterion) (field : String) (boost : Option Float) :
    Expands (.onField c field boost) (.onField c field boost)
  | documents (ids : List String) (boost : Option Float) :
    Expands (.documents ids boost) (.documents ids boost)
  | everything (boost : Option Float) : Expands (.everything boost) (.everything boost)
  | nothing (boost : Option Float) : Expands (.nothing boost) (.nothing boost)
  | queryString {text : String} {boost : Option Float} {r e : Query} (parsed : parse text = .ok r)
      (h : Expands r e) : Expands (.queryString text boost) (e.overrideBoost boost)
  | conjunction {cs es : List Query} {boost : Option Float} (h : ExpandsEach cs es) :
    Expands (.conjunction cs boost) (.conjunction es boost)
  | disjunction {ds es : List Query} {min : Option UInt32} {boost : Option Float}
      (h : ExpandsEach ds es) : Expands (.disjunction ds min boost) (.disjunction es min boost)
  | boolean {must should mustNot must' should' mustNot' : Option Query} {boost : Option Float}
      (hmust : ExpandsSlot must must') (hshould : ExpandsSlot should should')
      (hmustNot : ExpandsSlot mustNot mustNot') :
    Expands (.boolean must should mustNot boost) (.boolean must' should' mustNot' boost)

inductive ExpandsEach : List Query → List Query → Prop
  | nil : ExpandsEach [] []
  | cons {q e : Query} {qs es : List Query} (h : Expands q e) (rest : ExpandsEach qs es) :
    ExpandsEach (q :: qs) (e :: es)

inductive ExpandsSlot : Option Query → Option Query → Prop
  | absent : ExpandsSlot none none
  | present {q e : Query} (h : Expands q e) : ExpandsSlot (some q) (some e)

end

/-- Query strings one after another, each the result of the text of the one before, and what the
last of them is parsed to.  The list holds their boosts, the outermost first. -/
inductive Unfolds : Query → List (Option Float) → Query → Prop
  | root {q : Query} (structured : q.IsStructured) : Unfolds q [] q
  | text {text : String} {boost : Option Float} {r root : Query} {boosts : List (Option Float)}
      (parsed : parse text = .ok r) (h : Unfolds r boosts root) :
    Unfolds (.queryString text boost) (boost :: boosts) root

end Relation

/-- The first boost that is set. -/
def firstBoost (boosts : List (Option Float)) : Option Float := boosts.findSome? id

theorem overrideBoost_overrideBoost (outer inner : Option Float) (q : Query) :
    (q.overrideBoost inner).overrideBoost outer = q.overrideBoost (outer.or inner) := by
  cases outer with
  | none => rfl
  | some b =>
    cases inner with
    | none => rfl
    | some b' => cases q <;> rfl

section Substituted
variable {ε : Type} {parse : String → Except ε Query}

mutual

theorem Expands.hasQueryString {q e : Query} : Expands parse q e → e.hasQueryString = false
  | .onField .. => rfl
  | .documents .. => rfl
  | .everything .. => rfl
  | .nothing .. => rfl
  | .queryString _ h => hasQueryString_overrideBoost h.hasQueryString _
  | .conjunction h => h.anyQueryString
  | .disjunction h => h.anyQueryString
  | .boolean hmust hshould hmustNot => by
    rw [Query.hasQueryString, hmust.slotHasQueryString, hshould.slotHasQueryString,
      hmustNot.slotHasQueryString]
    rfl

theorem ExpandsEach.anyQueryString {qs es : List Query} :
    ExpandsEach parse qs es → Query.anyQueryString es = false
  | .nil => rfl
  | .cons h rest => by
    rw [Query.anyQueryString, h.hasQueryString, rest.anyQueryString]
    rfl

theorem ExpandsSlot.slotHasQueryString {slot slot' : Option Query} :
    ExpandsSlot parse slot slot' → Query.slotHasQueryString slot' = false
  | .absent => rfl
  | .present h => h.hasQueryString

end

mutual

theorem Expands.unique {q e e' : Query} : Expands parse q e → Expands parse q e' → e = e'
  | .onField .., .onField .. => rfl
  | .documents .., .documents .. => rfl
  | .everything .., .everything .. => rfl
  | .nothing .., .nothing .. => rfl
  | .queryString parsed h, .queryString parsed' h' => by
    cases parsed.symm.trans parsed'
    rw [h.unique h']
  | .conjunction h, .conjunction h' => by rw [h.unique h']
  | .disjunction h, .disjunction h' => by rw [h.unique h']
  | .boolean hmust hshould hmustNot, .boolean hmust' hshould' hmustNot' => by
    rw [hmust.unique hmust', hshould.unique hshould', hmustNot.unique hmustNot']

theorem ExpandsEach.unique {qs es es' : List Query} :
    ExpandsEach parse qs es → ExpandsEach parse qs es' → es = es'
  | .nil, .nil => rfl
  | .cons h rest, .cons h' rest' => by rw [h.unique h', rest.unique rest']

theorem ExpandsSlot.unique {slot s s' : Option Query} :
    ExpandsSlot parse slot s → ExpandsSlot parse slot s' → s = s'
  | .absent, .absent => rfl
  | .present h, .present h' => by rw [h.unique h']

end

theorem ExpandsEach.getElem? {qs es : List Query} {i : Nat} {q : Query} :
    ExpandsEach parse qs es → qs[i]? = some q → ∃ e, es[i]? = some e ∧ Expands parse q e := by
  intro h child
  induction qs generalizing es i with
  | nil => cases child
  | cons first qs ih =>
    cases h with
    | @cons _ e _ es h rest =>
      cases i with
      | zero =>
        cases child
        exact ⟨e, rfl, h⟩
      | succ i =>
        rw [List.getElem?_cons_succ] at child ⊢
        exact ih rest child

theorem ExpandsSlot.child {slot slot' : Option Query} {q : Query} (h : ExpandsSlot parse slot slot')
    (child : slot = some q) : ∃ e, slot' = some e ∧ Expands parse q e := by
  cases h with
  | absent => cases child
  | @present q' e h =>
    cases child
    exact ⟨e, rfl, h⟩

theorem Expands.child {q e c : Query} {step : Step} (h : Expands parse q e)
    (child : q.child? step = some c) : ∃ c', e.child? step = some c' ∧ Expands parse c c' := by
  cases h with
  | conjunction h =>
    obtain ⟨i, rfl, item⟩ := child?_conjunction.1 child
    exact h.getElem? item
  | disjunction h =>
    obtain ⟨i, rfl, item⟩ := child?_disjunction.1 child
    exact h.getElem? item
  | boolean hmust hshould hmustNot =>
    cases step with
    | must => exact hmust.child child
    | should => exact hshould.child child
    | mustNot => exact hmustNot.child child
    | conjunct i => cases child
    | disjunct i => cases child
  | _ => cases step <;> cases child

theorem Expands.nodeAt {q e r : Query} {path : List Step} (h : Expands parse q e)
    (node : q.nodeAt? path = some r) : ∃ r', e.nodeAt? path = some r' ∧ Expands parse r r' := by
  induction path generalizing q e with
  | nil =>
    cases node
    exact ⟨e, rfl, h⟩
  | cons step path ih =>
    obtain ⟨c, child, node⟩ := nodeAt?_cons_eq_some.1 node
    obtain ⟨c', child', h'⟩ := h.child child
    obtain ⟨r', node', expanded⟩ := ih h' node
    exact ⟨r', nodeAt?_cons_eq_some.2 ⟨c', child', node'⟩, expanded⟩

theorem firstBoost_cons (boost : Option Float) (boosts : List (Option Float)) :
    firstBoost (boost :: boosts) = boost.or (firstBoost boosts) := by
  cases boost <;> rfl

theorem firstBoost_append (boosts : List (Option Float)) (boost : Option Float) :
    firstBoost (boosts ++ [boost]) = (firstBoost boosts).or boost := by
  induction boosts with
  | nil => cases boost <;> rfl
  | cons first boosts ih =>
    rw [List.cons_append, firstBoost_cons, firstBoost_cons, ih, Option.or_assoc]

theorem boost?_overrideBoost (boost : Option Float) (q : Query) :
    (q.overrideBoost boost).boost? = boost.or q.boost? := by
  cases boost with
  | none => rfl
  | some b => cases q <;> rfl

theorem Expands.boost {q e : Query} (structured : q.IsStructured) (h : Expands parse q e) :
    e.boost? = q.boost? := by
  cases h with
  | queryString => exact structured.elim
  | _ => rfl

/-- The query at the end of the chain is expanded, and gets the first boost of the chain. -/
theorem Expands.unfolds {q e : Query} : Expands parse q e → ∃ boosts root e',
    Unfolds parse q boosts root ∧ Expands parse root e' ∧ e = e'.overrideBoost (firstBoost boosts)
  | .onField c field boost => ⟨[], _, _, .root trivial, .onField c field boost, rfl⟩
  | .documents ids boost => ⟨[], _, _, .root trivial, .documents ids boost, rfl⟩
  | .everything boost => ⟨[], _, _, .root trivial, .everything boost, rfl⟩
  | .nothing boost => ⟨[], _, _, .root trivial, .nothing boost, rfl⟩
  | .conjunction h => ⟨[], _, _, .root trivial, .conjunction h, rfl⟩
  | .disjunction h => ⟨[], _, _, .root trivial, .disjunction h, rfl⟩
  | .boolean hmust hshould hmustNot =>
    ⟨[], _, _, .root trivial, .boolean hmust hshould hmustNot, rfl⟩
  | .queryString parsed h => by
    obtain ⟨boosts, root, e', chain, expanded, rfl⟩ := h.unfolds
    refine ⟨_ :: boosts, root, e', .text parsed chain, expanded, ?_⟩
    rw [overrideBoost_overrideBoost, firstBoost_cons]

theorem Unfolds.isStructured {q root : Query} {boosts : List (Option Float)}
    (h : Unfolds parse q boosts root) : root.IsStructured := by
  induction h with
  | root structured => exact structured
  | text parsed h ih => exact ih

theorem expands_overrideBoost {q e : Query} (boost : Option Float)
    (h : Expands parse (q.overrideBoost boost) e) :
    ∃ e', Expands parse q e' ∧ e = e'.overrideBoost boost := by
  cases boost with
  | none => exact ⟨e, h, rfl⟩
  | some b =>
    cases q with
    | onField c field boost =>
      cases h
      exact ⟨_, .onField c field boost, rfl⟩
    | documents ids boost =>
      cases h
      exact ⟨_, .documents ids boost, rfl⟩
    | everything boost =>
      cases h
      exact ⟨_, .everything boost, rfl⟩
    | nothing boost =>
      cases h
      exact ⟨_, .nothing boost, rfl⟩
    | queryString text boost =>
      cases h with
      | queryString parsed h =>
        refine ⟨_, .queryString parsed h, ?_⟩
        rw [overrideBoost_overrideBoost]
        rfl
    | conjunction cs boost =>
      cases h with
      | conjunction h => exact ⟨_, .conjunction h, rfl⟩
    | disjunction ds min boost =>
      cases h with
      | disjunction h => exact ⟨_, .disjunction h, rfl⟩
    | boolean must should mustNot boost =>
      cases h with
      | boolean hmust hshould hmustNot => exact ⟨_, .boolean hmust hshould hmustNot, rfl⟩

section Traversal
variable {onText : String → Option Float → Except (ExpansionError ε) Query}

mutual

theorem expands_of_replaceTexts
    (one : ∀ text boost e, onText text boost = .ok e → Expands parse (.queryString text boost) e) :
    ∀ (q e : Query), replaceTexts onText q = .ok e → Expands parse q e
  | .queryString text boost, e, h => by
    rw [replaceTexts] at h
    exact one text boost e h
  | .conjunction cs boost, e, h => by
    obtain ⟨es, each, rfl⟩ := replaceTexts_conjunction.1 h
    exact .conjunction (expandsEach_of_replaceEach one .conjunct 0 cs es each)
  | .disjunction ds min boost, e, h => by
    obtain ⟨es, each, rfl⟩ := replaceTexts_disjunction.1 h
    exact .disjunction (expandsEach_of_replaceEach one .disjunct 0 ds es each)
  | .boolean must should mustNot boost, e, h => by
    obtain ⟨must', should', mustNot', hmust, hshould, hmustNot, rfl⟩ := replaceTexts_boolean.1 h
    exact .boolean (expandsSlot_of_replaceSlot one .must must must' hmust)
      (expandsSlot_of_replaceSlot one .should should should' hshould)
      (expandsSlot_of_replaceSlot one .mustNot mustNot mustNot' hmustNot)
  | .onField c field boost, e, h => by
    rw [replaceTexts] at h
    cases h
    exact .onField c field boost
  | .documents ids boost, e, h => by
    rw [replaceTexts] at h
    cases h
    exact .documents ids boost
  | .everything boost, e, h => by
    rw [replaceTexts] at h
    cases h
    exact .everything boost
  | .nothing boost, e, h => by
    rw [replaceTexts] at h
    cases h
    exact .nothing boost

theorem expandsEach_of_replaceEach
    (one : ∀ text boost e, onText text boost = .ok e → Expands parse (.queryString text boost) e)
    (step : Nat → Step) : ∀ (place : Nat) (qs es : List Query),
      replaceEach onText step place qs = .ok es → ExpandsEach parse qs es
  | place, [], es, h => by
    obtain rfl := replaceEach_nil.1 h
    exact .nil
  | place, q :: rest, es, h => by
    obtain ⟨e, es', first, others, rfl⟩ := replaceEach_cons.1 h
    exact .cons (expands_of_replaceTexts one q e first)
      (expandsEach_of_replaceEach one step (place + 1) rest es' others)

theorem expandsSlot_of_replaceSlot
    (one : ∀ text boost e, onText text boost = .ok e → Expands parse (.queryString text boost) e)
    (step : Step) : ∀ slot slot' : Option Query,
      replaceSlot onText step slot = .ok slot' → ExpandsSlot parse slot slot'
  | none, slot', h => by
    obtain rfl := replaceSlot_none.1 h
    exact .absent
  | some q, slot', h => by
    obtain ⟨e, first, rfl⟩ := replaceSlot_some.1 h
    exact .present (expands_of_replaceTexts one q e first)

end

end Traversal

theorem expands_of_expandWithin {budget : Nat} {q e : Query}
    (h : q.expandWithin parse budget = .ok e) : Expands parse q e := by
  induction budget generalizing q e with
  | zero =>
    refine expands_of_replaceTexts ?_ q e h
    intro text boost e refused
    cases refused
  | succ budget ih =>
    refine expands_of_replaceTexts ?_ q e h
    intro text boost e replaced
    cases parsed : parse text with
    | error g =>
      rw [parsed] at replaced
      cases replaced
    | ok r =>
      rw [parsed] at replaced
      obtain ⟨e', expanded, rfl⟩ := expands_overrideBoost boost (ih replaced)
      exact .queryString parsed expanded

end Substituted

/-- Expansion leaves no query string, so that another one changes nothing.  Every query string gives
way to what its text denotes, with the first boost of the query strings on the way there. -/
theorem expandWith_substitutes {ε : Type} {parse : String → Except ε Query} {q e : Query}
    (h : q.expandWith parse = .ok e) :
    e.hasQueryString = false ∧
      (∀ (ε' : Type) (parse' : String → Except ε' Query), e.expandWith parse' = .ok e) ∧
      Expands parse q e ∧
      ∀ path text boost, q.nodeAt? path = some (.queryString text boost) →
        ∃ boosts root r, Unfolds parse (.queryString text boost) boosts root ∧
          root.IsStructured ∧ Expands parse root r ∧
          ∃ node, e.nodeAt? path = some node ∧ node = r.overrideBoost (firstBoost boosts) ∧
            node.boost? = firstBoost (boosts ++ [root.boost?]) := by
  have expanded : Expands parse q e := expands_of_expandWithin h
  have structured := expanded.hasQueryString
  refine ⟨structured, ?_, expanded, ?_⟩
  · intro ε' parse'
    exact expandWithin_of_structured parse' maxExpansions structured
  · intro path text boost node
    obtain ⟨node', there, denoted⟩ := expanded.nodeAt node
    obtain ⟨boosts, root, r, chain, complete, rfl⟩ := denoted.unfolds
    refine ⟨boosts, root, r, chain, chain.isStructured, complete, _, there, rfl, ?_⟩
    rw [boost?_overrideBoost, complete.boost chain.isStructured]
    exact (firstBoost_append boosts root.boost?).symm

/-- The boost of two comes before that of three, and both before that of the term. -/
theorem expandWith_substitutes_chain :
    let parse : String → Except Unit Query := fun text =>
      if text = "a" then .ok (.queryString "b" (some 2))
      else if text = "b" then .ok (.queryString "c" (some 3))
      else .ok (.onField (.term text) "" (some 5))
    let q : Query := .conjunction [.everything none, .queryString "a" none] none
    let e : Query := .conjunction [.everything none, .onField (.term "c") "" (some 2)] none
    q.expandWith parse = .ok e ∧ e.hasQueryString = false ∧
      (∀ (ε' : Type) (parse' : String → Except ε' Query), e.expandWith parse' = .ok e) ∧
      Expands parse q e ∧
      ∀ path text boost, q.nodeAt? path = some (.queryString text boost) →
        ∃ boosts root r, Unfolds parse (.queryString text boost) boosts root ∧
          root.IsStructured ∧ Expands parse root r ∧
          ∃ node, e.nodeAt? path = some node ∧ node = r.overrideBoost (firstBoost boosts) ∧
            node.boost? = firstBoost (boosts ++ [root.boost?]) := by
  intro parse q e
  have expanded : q.expandWith parse = .ok e := by
    with_unfolding_all rfl
  exact ⟨expanded, expandWith_substitutes expanded⟩

end SearchQuery.Query
