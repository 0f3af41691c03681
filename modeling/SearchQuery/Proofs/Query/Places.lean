import SearchQuery.Proofs.Query.Expansion

/-!
# Places of nodes

A path leads to one node of a query or to none.  Paths are compared in the order of the document: a
node stands before the nodes below it, and these before all that follows it among its siblings.
-/

set_option autoImplicit false
namespace SearchQuery

namespace Step

def rank : Step → Nat
  | conjunct i => i
  | disjunct i => i
  | must => 0
  | should => 1
  | mustNot => 2

theorem text_conjunct (i : Nat) : (conjunct i).text = "conjuncts[" ++ i.repr ++ "]" := rfl

theorem text_disjunct (i : Nat) : (disjunct i).text = "disjuncts[" ++ i.repr ++ "]" := rfl

theorem toDigits_injective {i j : Nat} (h : Nat.toDigits 10 i = Nat.toDigits 10 j) : i = j := by
  rw [← Nat.ofDigitChars_ten_toDigits (n := i), h, Nat.ofDigitChars_ten_toDigits]

theorem text_injective {s t : Step} (h : s.text = t.text) : s = t := by
  have must : must.text = "must" := rfl
  have should : should.text = "should" := rfl
  have mustNot : mustNot.text = "must_not" := rfl
  have chars := congrArg String.toList h
  cases s <;> cases t <;>
    simp [text_conjunct, text_disjunct, must, should, mustNot] at chars ⊢
  · exact toDigits_injective chars
  · exact toDigits_injective chars

end Step

/-- The node at the first path is written before the node at the second. -/
def Precedes (left right : List Step) : Prop := List.Lex (fun s t => s.rank < t.rank) left right

theorem path_eq_of_texts {left right : List Step}
    (h : left.map Step.text = right.map Step.text) : left = right :=
  (List.map_inj_right fun _ _ => Step.text_injective).1 h

namespace Query

def child? : Query → Step → Option Query
  | .conjunction cs _, .conjunct i => cs[i]?
  | .disjunction ds _ _, .disjunct i => ds[i]?
  | .boolean must _ _ _, .must => must
  | .boolean _ should _ _, .should => should
  | .boolean _ _ mustNot _, .mustNot => mustNot
  | _, _ => none

theorem child?_conjunction {cs : List Query} {boost : Option Float} {step : Step} {c : Query} :
    (conjunction cs boost).child? step = some c ↔ ∃ i, step = .conjunct i ∧ cs[i]? = some c := by
  cases step <;> simp [child?]

theorem child?_disjunction {ds : List Query} {min : Option UInt32} {boost : Option Float}
    {step : Step} {c : Query} : (disjunction ds min boost).child? step = some c ↔
      ∃ i, step = .disjunct i ∧ ds[i]? = some c := by
  cases step <;> simp [child?]

def nodeAt? : Query → List Step → Option Query
  | q, [] => some q
  | q, step :: path => (q.child? step).bind fun c => c.nodeAt? path

theorem nodeAt?_cons_eq_some {q r : Query} {step : Step} {path : List Step} :
    q.nodeAt? (step :: path) = some r ↔ ∃ c, q.child? step = some c ∧ c.nodeAt? path = some r := by
  rw [nodeAt?, Option.bind_eq_some_iff]

theorem Everywhere.root {p : Query → Prop} {q : Query} (h : q.Everywhere p) : p q := by
  cases q with
  | conjunction | disjunction | boolean => exact h.1
  | _ => exact h

theorem Everywhere.child {p : Query → Prop} {q c : Query} {step : Step} (h : q.Everywhere p)
    (child : q.child? step = some c) : c.Everywhere p := by
  cases q with
  | conjunction cs boost =>
    obtain ⟨i, rfl, item⟩ := child?_conjunction.1 child
    exact everywhereIn_iff.1 h.2 c (List.mem_of_getElem? item)
  | disjunction ds min boost =>
    obtain ⟨i, rfl, item⟩ := child?_disjunction.1 child
    exact everywhereIn_iff.1 h.2 c (List.mem_of_getElem? item)
  | boolean must should mustNot boost =>
    obtain ⟨-, first, second, third⟩ := h
    cases step with
    | must => cases child; exact first
    | should => cases child; exact second
    | mustNot => cases child; exact third
    | _ => cases child
  | _ => cases step <;> cases child

theorem Everywhere.nodeAt {p : Query → Prop} {q r : Query} {path : List Step} (h : q.Everywhere p)
    (node : q.nodeAt? path = some r) : p r := by
  induction path generalizing q with
  | nil =>
    cases node
    exact h.root
  | cons step path ih =>
    obtain ⟨c, child, node⟩ := nodeAt?_cons_eq_some.1 node
    exact ih (h.child child) node

theorem child?_overrideBoost (boost : Option Float) (q : Query) (step : Step) :
    (q.overrideBoost boost).child? step = q.child? step := by
  cases boost with
  | none => rfl
  | some b => cases q <;> cases step <;> rfl

/-- The text of a query string at the end of a path. -/
def HasTextAt (q : Query) (path : List Step) (text : String) : Prop :=
  ∃ boost, q.nodeAt? path = some (.queryString text boost)

theorem hasTextAt_overrideBoost {boost : Option Float} {q : Query} {path : List Step}
    {text : String} : (q.overrideBoost boost).HasTextAt path text ↔ q.HasTextAt path text := by
  cases path with
  | nil =>
    cases boost with
    | none => exact Iff.rfl
    | some b => cases q <;> simp [HasTextAt, nodeAt?, overrideBoost, setBoost]
  | cons step path =>
    unfold HasTextAt
    rw [nodeAt?, nodeAt?, child?_overrideBoost]

end Query

end SearchQuery
