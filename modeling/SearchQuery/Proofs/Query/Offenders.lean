import SearchQuery.Proofs.Query.Checked
import SearchQuery.Proofs.Query.Faults
import SearchQuery.Proofs.Query.Substitution

/-!
# The first offending node

Validation checks every node of a query for itself.  Main statement: a query whose texts all follow
the grammar is valid exactly if every node of its expansion passes its own check, and otherwise the
report leads to the first of these nodes that does not and tells what is wrong with that one.
-/

set_option autoImplicit false
namespace SearchQuery.Query

def NodeFaults (q : Query) : FaultSet Violation := fun path v =>
  ∃ node, q.nodeAt? path = some node ∧ node.checkNode = .error v

def RootFault (q : Query) : FaultSet Violation := fun path v => path = [] ∧ q.checkNode = .error v

theorem nodeFaults_iff (q : Query) (path : List Step) (v : Violation) :
    RootFault q path v ∨ Inside NodeFaults q path v ↔ NodeFaults q path v := by
  constructor
  · rintro (⟨rfl, failed⟩ | ⟨step, c, child, rest, rfl, node, there, failed⟩)
    · exact ⟨q, rfl, failed⟩
    · exact ⟨node, nodeAt?_cons_eq_some.2 ⟨c, child, there⟩, failed⟩
  · rintro ⟨node, there, failed⟩
    cases path with
    | nil =>
      cases there
      exact .inl ⟨rfl, failed⟩
    | cons step rest =>
      obtain ⟨c, child, there⟩ := nodeAt?_cons_eq_some.1 there
      exact .inr ⟨step, c, child, rest, rfl, node, there, failed⟩

theorem root_reports (q : Query) : Reports (RootFault q) (q.checkNode.mapError At.here) := by
  cases checked : q.checkNode with
  | ok _ =>
    apply Reports.ok
    rintro path v ⟨-, failed⟩
    rw [checked] at failed
    cases failed
  | error w =>
    apply Reports.here
    intro path v
    unfold RootFault
    simp [checked, eq_comm]

theorem node_reports {q : Query} {children : Except Invalid Unit}
    (h : Reports (Inside NodeFaults q) children) :
    Reports (NodeFaults q) (q.checkNode.mapError At.here >>= fun _ => children) := by
  apply Reports.congr (nodeFaults_iff q)
  apply (root_reports q).bind fun _ => h
  rintro path v path' v' ⟨rfl, -⟩ ⟨step, c, -, rest, rfl, -⟩
  exact List.Lex.nil

theorem leaf_reports {q : Query} (leaf : ∀ step, q.child? step = none) :
    Reports (NodeFaults q) (q.checkNode.mapError At.here) := by
  have alone := node_reports (Reports.ok (a := ()) (not_inside_leaf leaf))
  cases checked : q.checkNode with
  | ok _ => rwa [checked] at alone
  | error _ => rwa [checked] at alone

variable {onText : String → Except Invalid Unit}

mutual

theorem checkTree_reports : ∀ q : Query, q.hasQueryString = false →
    Reports (NodeFaults q) (q.checkTree onText)
  | .onField c field boost, _ => by
    rw [checkTree]
    exact leaf_reports fun step => by cases step <;> rfl
  | .documents ids boost, _ => by
    rw [checkTree]
    exact leaf_reports (q := .documents ids boost) fun step => by cases step <;> rfl
  | .everything boost, _ => by
    rw [checkTree]
    exact leaf_reports (q := .everything boost) fun step => by cases step <;> rfl
  | .nothing boost, _ => by
    rw [checkTree]
    exact leaf_reports (q := .nothing boost) fun step => by cases step <;> rfl
  | .queryString text boost, h => by cases h
  | .conjunction cs boost, h => by
    rw [checkTree]
    apply node_reports (q := .conjunction cs boost)
    apply Reports.congr (inside_children fun _ _ => child?_conjunction)
    exact checkEach_reports .conjunct (fun _ _ => id) 0 cs h
  | .disjunction ds min boost, h => by
    rw [checkTree]
    apply node_reports
    apply Reports.congr (inside_children fun _ _ => child?_disjunction)
    exact checkEach_reports .disjunct (fun _ _ => id) 0 ds h
  | .boolean must should mustNot boost, h => by
    rw [hasQueryString, Bool.or_eq_false_iff, Bool.or_eq_false_iff] at h
    rw [checkTree]
    apply node_reports
    apply Reports.slots (checkSlot_reports .must must h.1.1)
    · intro _
      exact checkSlot_reports .should should h.1.2
    · intro _ _
      exact checkSlot_reports .mustNot mustNot h.2

theorem checkEach_reports (step : Nat → Step)
    (ascending : ∀ i j, i < j → (step i).rank < (step j).rank) :
    ∀ (place : Nat) (qs : List Query), anyQueryString qs = false →
      Reports (InsideEach NodeFaults step place qs) (checkEach onText step place qs)
  | place, [], _ => by
    rw [checkEach]
    exact .ok (not_insideEach_nil step place)
  | place, q :: rest, h => by
    rw [anyQueryString, Bool.or_eq_false_iff] at h
    rw [checkEach]
    apply Reports.cons ascending ((checkTree_reports q h.1).below (step place))
    intro _
    exact checkEach_reports step ascending (place + 1) rest h.2

theorem checkSlot_reports (step : Step) : ∀ slot : Option Query, slotHasQueryString slot = false →
    Reports (InsideSlot NodeFaults step slot) (checkSlot onText step slot)
  | none, _ => by
    rw [checkSlot]
    exact .ok (not_insideSlot_none step)
  | some q, h => by
    rw [checkSlot]
    apply Reports.congr insideSlot_some
    exact (checkTree_reports q h).below step

end

/-- An expansion has no texts left, and it is checked as the query is. -/
theorem validate_reports_expanded {q e : Query} (expanded : q.expand = .ok e) :
    Reports (NodeFaults e) q.validate := by
  have structured : e.hasQueryString = false := (expands_of_expandWithin expanded).hasQueryString
  rw [expand_eq] at expanded
  have same : e.validate = q.validate := checkTree_replaceTexts q e expanded
  rw [← same]
  exact checkTree_reports e structured

/-- A query whose texts follow the grammar is valid exactly if each node of its expansion passes the
check of that node alone.  Otherwise the locations in front of the report lead from the root of the
expansion to the first node that does not pass, and what they lead to is its own violation. -/
theorem validate_first_offender {q : Query}
    (parsed : ∀ path text, q.HasTextAt path text → ∃ r, parseQueryString text = .ok r) :
    ∃ e, q.expand = .ok e ∧
      (q.validate = .ok () ↔
        ∀ path node, e.nodeAt? path = some node → node.checkNode = .ok ()) ∧
      ∀ report, q.validate = .error report → ∃ node,
        e.nodeAt? report.path = some node ∧ node.checkNode = .error report.cause ∧
          (∀ path, path.map Step.text = report.path.map Step.text → path = report.path) ∧
          ∀ path other, e.nodeAt? path = some other → other.checkNode ≠ .ok () →
            path = report.path ∨ Precedes report.path path := by
  obtain ⟨e, expanded⟩ := expand_succeeds_iff.2 parsed
  have reports := validate_reports_expanded expanded
  refine ⟨e, expanded, ?_⟩
  cases checked : q.validate with
  | ok _ =>
    rw [checked] at reports
    cases reports with
    | ok none =>
      refine ⟨iff_of_true rfl ?_, ?_⟩
      · intro path node there
        cases own : node.checkNode with
        | ok _ => rfl
        | error v => exact absurd ⟨node, there, own⟩ (none path v)
      · rintro report ⟨⟩
  | error report =>
    rw [checked] at reports
    cases reports with
    | error found first =>
      obtain ⟨node, there, failed⟩ := found
      constructor
      · apply iff_of_false
        · rintro ⟨⟩
        · intro all
          rw [all report.path node there] at failed
          cases failed
      · rintro report ⟨⟩
        refine ⟨node, there, failed, fun _ => path_eq_of_texts, ?_⟩
        intro path other there' refused
        cases own : other.checkNode with
        | ok _ => exact absurd own refused
        | error v => exact (first path v ⟨other, there', own⟩).imp_left And.left

/-- Three edits are too many for the word of a query string, and the phrase behind it is empty. -/
theorem validate_first_offender_denoted :
    let word : Query := .onField (.text "go" none none (some (.edits 3)) none) "" none
    let phrase : Query := .onField (.phrase [] none) "" none
    let q : Query := .conjunction [.everything none, .queryString "go~3" (some 2), phrase] none
    let report : Invalid := ⟨[.conjunct 1, .should, .disjunct 0], .fuzziness 3⟩
    (∀ path text, q.HasTextAt path text → ∃ r, parseQueryString text = .ok r) ∧
      q.validate = .error report ∧ ∃ e, q.expand = .ok e ∧
        e.nodeAt? report.path = some word ∧ word.checkNode = .error report.cause ∧
        e.nodeAt? [.conjunct 2] = some phrase ∧ phrase.checkNode ≠ .ok () ∧
        ∀ path other, e.nodeAt? path = some other → other.checkNode ≠ .ok () →
          path = report.path ∨ Precedes report.path path := by
  intro word phrase q report
  let clauses : Query := .disjunction [word] (some 1) none
  let e : Query :=
    .conjunction [.everything none, .boolean none (some clauses) none (some 2), phrase] none
  have expanded : q.expand = .ok e := by
    rw [expand_eq]
    with_unfolding_all rfl
  have parsed := expand_succeeds_iff.1 ⟨e, expanded⟩
  have invalid : q.validate = .error report := by
    with_unfolding_all rfl
  obtain ⟨e', expanded', -, reported⟩ := validate_first_offender parsed
  cases expanded.symm.trans expanded'
  obtain ⟨node, there, failed, -, first⟩ := reported report invalid
  cases there
  refine ⟨parsed, invalid, e, expanded, rfl, failed, rfl, ?_, first⟩
  rintro ⟨⟩

end SearchQuery.Query
