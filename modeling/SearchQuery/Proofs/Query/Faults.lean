import SearchQuery.Proofs.Query.Places

/-!
# The first fault

A computation over a query stops at the first fault in the order of the document.  `Reports F r`
says so of a result: `F` holds of the places and the faults that there are, and `r` succeeds if there
are none.  Main statement: a query whose texts are not all of the grammar has no expansion, and the
report leads to the first of these texts.
-/

set_option autoImplicit false
namespace SearchQuery

section Reports
variable {φ α β : Type}

abbrev FaultSet (φ : Type) := List Step → φ → Prop

/-- The result is a success without faults, or else the first fault. -/
inductive Reports (F : FaultSet φ) : Except (At φ) α → Prop
  | ok {a : α} (none : ∀ path fault, ¬F path fault) : Reports F (.ok a)
  | error {e : At φ} (found : F e.path e.cause)
      (first : ∀ path fault, F path fault →
        (path = e.path ∧ fault = e.cause) ∨ Precedes e.path path) : Reports F (.error e)

def Under (step : Step) (F : FaultSet φ) : FaultSet φ := fun path fault =>
  ∃ rest, path = step :: rest ∧ F rest fault

namespace Reports
variable {F G : FaultSet φ} {x : Except (At φ) α}

theorem congr (h : ∀ path fault, F path fault ↔ G path fault) (reports : Reports F x) :
    Reports G x := by
  have same : F = G := by
    funext path fault
    exact propext (h path fault)
  rw [← same]
  exact reports

theorem map (reports : Reports F x) (f : α → β) : Reports F (x >>= fun a => pure (f a)) := by
  cases reports with
  | ok none => exact .ok none
  | error found first => exact .error found first

/-- All faults of the first part stand before those of the second. -/
theorem bind {k : α → Except (At φ) β} (left : Reports F x) (right : ∀ a, Reports G (k a))
    (order : ∀ path fault path' fault', F path fault → G path' fault' → Precedes path path') :
    Reports (fun path fault => F path fault ∨ G path fault) (x >>= k) := by
  cases left with
  | @ok a none =>
    apply (right a).congr
    intro path fault
    constructor
    · exact .inr
    · intro h
      exact h.resolve_left (none path fault)
  | error found first =>
    apply Reports.error (.inl found)
    intro path fault h
    cases h with
    | inl h => exact first path fault h
    | inr h => exact .inr (order _ _ path fault found h)

theorem here {fault : φ} (only : ∀ path f, F path f ↔ path = [] ∧ f = fault) :
    Reports F (.error (At.here fault) : Except (At φ) α) := by
  apply Reports.error
  · exact (only [] fault).2 ⟨rfl, rfl⟩
  · intro path f h
    exact .inl ((only path f).1 h)

theorem below (step : Step) (reports : Reports F x) :
    Reports (Under step F) (SearchQuery.below step x) := by
  cases reports with
  | ok none =>
    apply Reports.ok
    rintro path fault ⟨rest, -, h⟩
    exact none rest fault h
  | @error e found first =>
    apply Reports.error
    · exact ⟨e.path, rfl, found⟩
    · rintro path fault ⟨rest, rfl, h⟩
      cases first rest fault h with
      | inl same =>
        left
        exact ⟨congrArg (step :: ·) same.1, same.2⟩
      | inr later =>
        right
        exact List.Lex.cons later

end Reports

theorem under_precedes {F G : FaultSet φ} {s t : Step} (h : s.rank < t.rank)
    {path path' : List Step} {fault fault' : φ} (left : Under s F path fault)
    (right : Under t G path' fault') : Precedes path path' := by
  obtain ⟨rest, rfl, -⟩ := left
  obtain ⟨rest', rfl, -⟩ := right
  exact List.Lex.rel h

end Reports

namespace Query

section Children
variable {φ : Type} (G : Query → FaultSet φ)

/-- The faults of the children of a node, where `G` holds of those of a single query. -/
def Inside (q : Query) : FaultSet φ := fun path fault =>
  ∃ step c, q.child? step = some c ∧ Under step (G c) path fault

def InsideEach (step : Nat → Step) (place : Nat) (qs : List Query) : FaultSet φ :=
  fun path fault => ∃ (i : Nat) (q : Query), qs[i]? = some q ∧
    Under (step (place + i)) (G q) path fault

def InsideSlot (step : Step) (slot : Option Query) : FaultSet φ := fun path fault =>
  ∃ q, slot = some q ∧ Under step (G q) path fault

variable {G}

theorem not_insideEach_nil (step : Nat → Step) (place : Nat) (path : List Step) (fault : φ) :
    ¬InsideEach G step place [] path fault := by
  rintro ⟨i, q, child, -⟩
  cases child

theorem insideEach_cons {step : Nat → Step} {place : Nat} {q : Query} {qs : List Query}
    {path : List Step} {fault : φ} :
    (Under (step place) (G q) path fault ∨ InsideEach G step (place + 1) qs path fault) ↔
      InsideEach G step place (q :: qs) path fault := by
  constructor
  · rintro (h | ⟨i, c, child, h⟩)
    · exact ⟨0, q, rfl, h⟩
    · refine ⟨i + 1, c, child, ?_⟩
      rw [← Nat.add_assoc, Nat.add_right_comm]
      exact h
  · rintro ⟨i, c, child, h⟩
    cases i with
    | zero =>
      cases child
      exact .inl h
    | succ i =>
      refine .inr ⟨i, c, child, ?_⟩
      rw [Nat.add_right_comm, Nat.add_assoc]
      exact h

theorem inside_children {q : Query} {step : Nat → Step} {qs : List Query}
    (children : ∀ s c, q.child? s = some c ↔ ∃ i, s = step i ∧ qs[i]? = some c)
    (path : List Step) (fault : φ) :
    InsideEach G step 0 qs path fault ↔ Inside G q path fault := by
  constructor
  · rintro ⟨i, c, item, h⟩
    rw [Nat.zero_add] at h
    exact ⟨step i, c, (children (step i) c).2 ⟨i, rfl, item⟩, h⟩
  · rintro ⟨s, c, child, h⟩
    obtain ⟨i, rfl, item⟩ := (children s c).1 child
    refine ⟨i, c, item, ?_⟩
    rw [Nat.zero_add]
    exact h

theorem not_insideSlot_none (step : Step) (path : List Step) (fault : φ) :
    ¬InsideSlot G step none path fault := by
  rintro ⟨q, child, -⟩
  cases child

theorem insideSlot_some {step : Step} {q : Query} (path : List Step) (fault : φ) :
    Under step (G q) path fault ↔ InsideSlot G step (some q) path fault := by
  constructor
  · intro h
    exact ⟨q, rfl, h⟩
  · rintro ⟨q, ⟨⟩, h⟩
    exact h

theorem insideSlot_precedes {s t : Step} (h : s.rank < t.rank) {slot slot' : Option Query}
    {path path' : List Step} {fault fault' : φ} (left : InsideSlot G s slot path fault)
    (right : InsideSlot G t slot' path' fault') : Precedes path path' := by
  obtain ⟨q, -, left⟩ := left
  obtain ⟨q', -, right⟩ := right
  exact under_precedes h left right

theorem inside_boolean (must should mustNot : Option Query) (boost : Option Float)
    (path : List Step) (fault : φ) :
    (InsideSlot G .must must path fault ∨ InsideSlot G .should should path fault ∨
      InsideSlot G .mustNot mustNot path fault) ↔
      Inside G (.boolean must should mustNot boost) path fault := by
  constructor
  · rintro (⟨c, child, h⟩ | ⟨c, child, h⟩ | ⟨c, child, h⟩)
    · exact ⟨.must, c, child, h⟩
    · exact ⟨.should, c, child, h⟩
    · exact ⟨.mustNot, c, child, h⟩
  · rintro ⟨step, c, child, h⟩
    cases step with
    | must => exact .inl ⟨c, child, h⟩
    | should => exact .inr (.inl ⟨c, child, h⟩)
    | mustNot => exact .inr (.inr ⟨c, child, h⟩)
    | conjunct i => cases child
    | disjunct i => cases child

theorem not_inside_leaf {q : Query} (leaf : ∀ step, q.child? step = none) (path : List Step)
    (fault : φ) : ¬Inside G q path fault := by
  rintro ⟨step, c, child, -⟩
  rw [leaf step] at child
  cases child

section Walks
variable {α β γ : Type} {x : Except (At φ) α}

theorem Reports.cons {step : Nat → Step} {place : Nat} {q : Query} {qs : List Query}
    (ascending : ∀ i j, i < j → (step i).rank < (step j).rank) {k : α → Except (At φ) β}
    (first : Reports (Under (step place) (G q)) x)
    (others : ∀ a, Reports (InsideEach G step (place + 1) qs) (k a)) :
    Reports (InsideEach G step place (q :: qs)) (x >>= k) := by
  apply Reports.congr fun _ _ => insideEach_cons
  apply first.bind others
  intro path fault path' fault' left ⟨i, c, _, right⟩
  exact under_precedes (ascending _ _ (by omega)) left right

theorem Reports.slots {must should mustNot : Option Query} {boost : Option Float}
    {k : α → Except (At φ) β} {l : α → β → Except (At φ) γ}
    (first : Reports (InsideSlot G .must must) x)
    (second : ∀ a, Reports (InsideSlot G .should should) (k a))
    (third : ∀ a b, Reports (InsideSlot G .mustNot mustNot) (l a b)) :
    Reports (Inside G (.boolean must should mustNot boost)) (x >>= fun a => k a >>= l a) := by
  apply Reports.congr (inside_boolean must should mustNot boost)
  apply first.bind
  · intro a
    apply (second a).bind (third a)
    intro _ _ _ _ left right
    exact insideSlot_precedes (by decide) left right
  · intro _ _ _ _ left right
    cases right with
    | inl right => exact insideSlot_precedes (by decide) left right
    | inr right => exact insideSlot_precedes (by decide) left right

end Walks

end Children

section Traversal
variable {φ : Type} (F : String → FaultSet φ)

def TextFaults (q : Query) : FaultSet φ := fun path fault =>
  ∃ outer inner text, q.HasTextAt outer text ∧ path = outer ++ inner ∧ F text inner fault

def TextFaultsEach (step : Nat → Step) (place : Nat) (qs : List Query) : FaultSet φ :=
  fun path fault => ∃ (i : Nat) (q : Query), qs[i]? = some q ∧
    Under (step (place + i)) (TextFaults F q) path fault

def TextFaultsSlot (step : Step) (slot : Option Query) : FaultSet φ := fun path fault =>
  ∃ q, slot = some q ∧ Under step (TextFaults F q) path fault

variable {F}

theorem textFaults_queryString {text : String} {boost : Option Float} {path : List Step}
    {fault : φ} : F text path fault ↔ TextFaults F (.queryString text boost) path fault := by
  constructor
  · intro h
    exact ⟨[], path, text, ⟨boost, rfl⟩, rfl, h⟩
  · rintro ⟨outer, inner, text', ⟨boost', node⟩, rfl, h⟩
    cases outer with
    | nil =>
      cases node
      exact h
    | cons step outer =>
      cases node

theorem textFaults_child {q : Query} (structured : q.IsStructured) {path : List Step} {fault : φ} :
    TextFaults F q path fault ↔
      ∃ step c, q.child? step = some c ∧ Under step (TextFaults F c) path fault := by
  constructor
  · rintro ⟨outer, inner, text, ⟨boost, node⟩, rfl, h⟩
    cases outer with
    | nil =>
      cases node
      exact structured.elim
    | cons step outer =>
      obtain ⟨c, child, node⟩ := nodeAt?_cons_eq_some.1 node
      exact ⟨step, c, child, outer ++ inner, rfl, outer, inner, text, ⟨boost, node⟩, rfl, h⟩
  · rintro ⟨step, c, child, rest, rfl, outer, inner, text, ⟨boost, node⟩, rfl, h⟩
    exact ⟨step :: outer, inner, text, ⟨boost, nodeAt?_cons_eq_some.2 ⟨c, child, node⟩⟩, rfl, h⟩

theorem textFaults_leaf {q : Query} (structured : q.IsStructured)
    (leaf : ∀ step, q.child? step = none) (path : List Step) (fault : φ) :
    ¬TextFaults F q path fault := by
  rw [textFaults_child structured]
  exact not_inside_leaf leaf path fault

theorem textFaults_children {q : Query} {step : Nat → Step} {qs : List Query}
    (structured : q.IsStructured)
    (children : ∀ s c, q.child? s = some c ↔ ∃ i, s = step i ∧ qs[i]? = some c)
    (path : List Step) (fault : φ) :
    TextFaultsEach F step 0 qs path fault ↔ TextFaults F q path fault := by
  rw [textFaults_child structured]
  exact inside_children children path fault

variable {onText : String → Option Float → Except (At φ) Query}

mutual

/-- If what replaces a single text reports the first fault, so does the replacement of all texts. -/
theorem replaceTexts_reports (one : ∀ text boost, Reports (F text) (onText text boost)) :
    ∀ q : Query, Reports (TextFaults F q) (replaceTexts onText q)
  | .queryString text boost => by
    rw [replaceTexts]
    apply (one text boost).congr
    intro path fault
    exact textFaults_queryString
  | .conjunction cs boost => by
    rw [replaceTexts]
    apply Reports.congr (textFaults_children (q := .conjunction cs boost) trivial
      fun _ _ => child?_conjunction)
    exact (replaceEach_reports one .conjunct (fun _ _ => id) 0 cs).map _
  | .disjunction ds min boost => by
    rw [replaceTexts]
    apply Reports.congr (textFaults_children (q := .disjunction ds min boost) trivial
      fun _ _ => child?_disjunction)
    exact (replaceEach_reports one .disjunct (fun _ _ => id) 0 ds).map _
  | .boolean must should mustNot boost => by
    rw [replaceTexts]
    apply Reports.congr fun _ _ =>
      (textFaults_child (q := .boolean must should mustNot boost) trivial).symm
    apply Reports.slots (G := TextFaults F) (replaceSlot_reports one .must must)
    · intro must'
      exact replaceSlot_reports one .should should
    · intro must' should'
      exact (replaceSlot_reports one .mustNot mustNot).map _
  | .onField c field boost => by
    rw [replaceTexts]
    exact .ok (textFaults_leaf trivial fun step => by cases step <;> rfl)
  | .documents ids boost => by
    rw [replaceTexts]
    exact .ok (textFaults_leaf trivial fun step => by cases step <;> rfl)
  | .everything boost => by
    rw [replaceTexts]
    exact .ok (textFaults_leaf trivial fun step => by cases step <;> rfl)
  | .nothing boost => by
    rw [replaceTexts]
    exact .ok (textFaults_leaf trivial fun step => by cases step <;> rfl)

theorem replaceEach_reports (one : ∀ text boost, Reports (F text) (onText text boost))
    (step : Nat → Step)
    (ascending : ∀ i j, i < j → (step i).rank < (step j).rank) :
    ∀ (place : Nat) (qs : List Query),
      Reports (TextFaultsEach F step place qs) (replaceEach onText step place qs)
  | place, [] => by
    rw [replaceEach]
    exact .ok (not_insideEach_nil step place)
  | place, q :: rest => by
    rw [replaceEach]
    apply Reports.cons ascending ((replaceTexts_reports one q).below (step place))
    intro q'
    exact (replaceEach_reports one step ascending (place + 1) rest).map _

theorem replaceSlot_reports (one : ∀ text boost, Reports (F text) (onText text boost))
    (step : Step) : ∀ slot : Option Query,
      Reports (TextFaultsSlot F step slot) (replaceSlot onText step slot)
  | none => by
    rw [replaceSlot]
    exact .ok (not_insideSlot_none step)
  | some q => by
    rw [replaceSlot]
    apply Reports.congr insideSlot_some
    exact ((replaceTexts_reports one q).below step).map _

end

end Traversal

section Parsing
variable {ε : Type} (parse : String → Except ε Query)

def parsedFaults (inside : Query → FaultSet (ExpansionFault ε)) (text : String) :
    FaultSet (ExpansionFault ε) := fun path fault =>
  match parse text with
  | .error e => path = [] ∧ fault = .grammar e
  | .ok r => inside r path fault

variable {parse} {inside : Query → FaultSet (ExpansionFault ε)} {text : String}

theorem parsedFaults_error {e : ε} (refused : parse text = .error e) (path : List Step)
    (fault : ExpansionFault ε) :
    parsedFaults parse inside text path fault ↔ path = [] ∧ fault = .grammar e := by
  unfold parsedFaults
  rw [refused]

theorem parsedFaults_ok {r : Query} (parsed : parse text = .ok r) (path : List Step)
    (fault : ExpansionFault ε) :
    inside r path fault ↔ parsedFaults parse inside text path fault := by
  unfold parsedFaults
  rw [parsed]

end Parsing

def unparsed : String → FaultSet (ExpansionFault GrammarError) :=
  parsedFaults parseQueryString fun _ _ _ => False

theorem denoted_reports (text : String) (boost : Option Float) :
    Reports (unparsed text) (denoted text boost) := by
  unfold denoted
  cases parsed : parseQueryString text with
  | error e => exact Reports.here (parsedFaults_error parsed)
  | ok q =>
    apply Reports.ok
    intro path fault h
    exact (parsedFaults_ok parsed path fault).2 h

theorem expand_reports (q : Query) : Reports (TextFaults unparsed q) q.expand := by
  rw [expand_eq]
  exact replaceTexts_reports denoted_reports q

theorem textFaults_unparsed {q : Query} {path : List Step}
    {fault : ExpansionFault GrammarError} : TextFaults unparsed q path fault ↔
      ∃ text e, q.HasTextAt path text ∧ parseQueryString text = .error e ∧
        fault = .grammar e := by
  constructor
  · rintro ⟨outer, inner, text, node, rfl, h⟩
    cases parsed : parseQueryString text with
    | error e =>
      obtain ⟨rfl, rfl⟩ := (parsedFaults_error parsed inner fault).1 h
      rw [List.append_nil]
      exact ⟨text, e, node, parsed, rfl⟩
    | ok r => exact ((parsedFaults_ok parsed inner fault).2 h).elim
  · rintro ⟨text, e, node, parsed, rfl⟩
    have only : unparsed text [] (.grammar e) := (parsedFaults_error parsed [] _).2 ⟨rfl, rfl⟩
    exact ⟨path, [], text, node, (List.append_nil path).symm, only⟩

theorem expand_succeeds_iff {q : Query} : (∃ e, q.expand = .ok e) ↔
    ∀ path text, q.HasTextAt path text → ∃ r, parseQueryString text = .ok r := by
  have reports := expand_reports q
  cases expanded : q.expand with
  | error report =>
    rw [expanded] at reports
    cases reports with
    | error found _ =>
      obtain ⟨text, e, node, unparsed, -⟩ := textFaults_unparsed.1 found
      apply iff_of_false
      · rintro ⟨e', ⟨⟩⟩
      · intro parsed
        obtain ⟨r, read⟩ := parsed report.path text node
        cases unparsed.symm.trans read
  | ok e =>
    rw [expanded] at reports
    cases reports with
    | ok none =>
      apply iff_of_true ⟨e, rfl⟩
      intro path text node
      cases parsed : parseQueryString text with
      | error g => exact absurd (textFaults_unparsed.2 ⟨text, g, node, parsed, rfl⟩) (none _ _)
      | ok r => exact ⟨r, rfl⟩

/-- A query has an expansion exactly if all its texts follow the grammar.  Otherwise the report is
that of the grammar, and the locations in front of it lead to the first text that does not. -/
theorem expand_first_unparsed (q : Query) :
    ((∃ e, q.expand = .ok e) ↔
        ∀ path text, q.HasTextAt path text → ∃ r, parseQueryString text = .ok r) ∧
      ∀ report, q.expand = .error report → ∃ text e,
        q.HasTextAt report.path text ∧ parseQueryString text = .error e ∧
          report.cause = .grammar e ∧ report.grammarError? = some e ∧
          (∀ path, path.map Step.text = report.path.map Step.text → path = report.path) ∧
          ∀ path text', q.HasTextAt path text' → (¬∃ r, parseQueryString text' = .ok r) →
            path = report.path ∨ Precedes report.path path := by
  have reports := expand_reports q
  refine ⟨expand_succeeds_iff, fun report failed => ?_⟩
  rw [failed] at reports
  cases reports with
  | error found first =>
    obtain ⟨text, e, node, unparsed, cause⟩ := textFaults_unparsed.1 found
    have reported : report.grammarError? = some e := by
      unfold ExpansionError.grammarError?
      rw [cause]
    refine ⟨text, e, node, unparsed, cause, reported, fun _ => path_eq_of_texts, ?_⟩
    intro path text' node' refused
    cases parsed : parseQueryString text' with
    | error g =>
      have later := first path _ (textFaults_unparsed.2 ⟨text', g, node', parsed, rfl⟩)
      exact later.imp_left And.left
    | ok r => exact absurd ⟨r, parsed⟩ refused

/-- The excluded text is written before the last conjunct. -/
theorem expand_first_unparsed_excluded :
    let excluding : Query := .boolean none none (some (.queryString "a:" none)) none
    let q : Query := .conjunction [.queryString "a" none, excluding, .queryString "b:" none] none
    let report : ExpansionError GrammarError :=
      ⟨[.conjunct 1, .mustNot], .grammar ⟨"a:", .missingValue "a" 2⟩⟩
    q.expand = .error report ∧ ∃ text e,
      q.HasTextAt report.path text ∧ parseQueryString text = .error e ∧
        report.cause = .grammar e ∧ report.grammarError? = some e ∧
        (∀ path, path.map Step.text = report.path.map Step.text → path = report.path) ∧
        ∀ path text', q.HasTextAt path text' → (¬∃ r, parseQueryString text' = .ok r) →
          path = report.path ∨ Precedes report.path path := by
  intro excluding q report
  have failed : q.expand = .error report := by
    rw [expand_eq]
    with_unfolding_all rfl
  exact ⟨failed, (expand_first_unparsed q).2 report failed⟩

end Query

end SearchQuery
