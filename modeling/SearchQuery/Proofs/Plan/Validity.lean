import SearchQuery.Plan.Lowering
import SearchQuery.Proofs.Query.Clauses

/-!
# Validation and compilation agree

A query is checked twice: on its own, and again on the way to a plan.  Both walks meet the nodes in
one order, so a query with a plan is valid, and a plan that fails for the sake of the query fails
with the cause that validation reports.  What else can fail is up to the mapping.

Two kinds of nodes are judged differently on purpose and are left aside: a boolean query without
slots, and a date range whose parser only the mapping knows.
-/

set_option autoImplicit false
namespace SearchQuery

def PlanError.violation? : PlanError → Option Violation
  | invalid v => some v
  | grammar e => some (.grammar e)
  | _ => none

/-- A failure for reasons of the mapping: an unknown field, the type of a field, or an unknown
analyzer. -/
inductive PlanError.OfMapping : PlanError → Prop
  | unknownField (field : String) : OfMapping (.unknownField field)
  | fieldType (kind : Kind) (field : String) (expected actual : FieldType) :
    OfMapping (.fieldType kind field expected actual)
  | unknownAnalyzer (name : String) : OfMapping (.unknownAnalyzer name)

theorem PlanError.OfMapping.violation? {e : PlanError} (h : e.OfMapping) : e.violation? = none := by
  cases h <;> rfl

/-- The node is judged alike by both walks. -/
def Query.IsSettled : Query → Prop
  | .boolean none none none _ => False
  | .onField (.dateRange _ (some _)) _ _ => False
  | _ => True

/-- A check and a lowering tell the same about a query. -/
def Agrees {α : Type} (check : Except Invalid Unit) : Except PlanError α → Prop
  | .ok _ => check = .ok ()
  | .error e =>
    match e.violation? with
    | some v => ∃ path, check = .error ⟨path, v⟩
    | none => e.OfMapping

namespace Agrees
variable {α β : Type}

theorem ok (x : α) : Agrees (.ok ()) (.ok x) := rfl

theorem ofMapping {e : PlanError} (h : e.OfMapping) (check : Except Invalid Unit) :
    Agrees check (.error e : Except PlanError α) := by
  simp only [Agrees, h.violation?]
  exact h

theorem bind {check next : Except Invalid Unit} {lowered : Except PlanError α}
    {f : α → Except PlanError β} (h : Agrees check lowered)
    (hf : ∀ x, lowered = .ok x → Agrees next (f x)) :
    Agrees (check >>= fun _ => next) (lowered >>= f) := by
  cases lowered with
  | ok x =>
    have hc : check = .ok () := h
    rw [hc]
    exact hf x rfl
  | error e =>
    change Agrees _ (.error e)
    cases hv : e.violation? with
    | none =>
      simp only [Agrees, hv] at h
      exact ofMapping h _
    | some v =>
      simp only [Agrees, hv] at h ⊢
      obtain ⟨path, rfl⟩ := h
      exact ⟨path, rfl⟩

theorem bind_ok {check : Except Invalid Unit} {lowered : Except PlanError α}
    {f : α → Except PlanError β} (h : Agrees check lowered)
    (hf : ∀ x, lowered = .ok x → Agrees (.ok ()) (f x)) : Agrees check (lowered >>= f) := by
  have hb := h.bind hf
  have he : (check >>= fun _ => .ok ()) = check := by cases check <;> rfl
  rwa [he] at hb

theorem below {check : Except Invalid Unit} {lowered : Except PlanError α}
    (h : Agrees check lowered) (step : Step) : Agrees (SearchQuery.below step check) lowered := by
  cases lowered with
  | ok x =>
    have hc : check = .ok () := h
    rw [hc]
    rfl
  | error e =>
    cases hv : e.violation? with
    | none =>
      simp only [Agrees, hv] at h
      exact ofMapping h _
    | some v =>
      simp only [Agrees, hv] at h ⊢
      obtain ⟨path, rfl⟩ := h
      exact ⟨step :: path, rfl⟩

theorem valid (r : Except Violation α) :
    Agrees ((r.map fun _ => ()).mapError At.here) (SearchQuery.valid r) := by
  cases r with
  | ok x => rfl
  | error v => exact ⟨[], rfl⟩

theorem valid_unit (r : Except Violation Unit) :
    Agrees (r.mapError At.here) (SearchQuery.valid r) := by
  cases r with
  | ok x => rfl
  | error v => exact ⟨[], rfl⟩

theorem checkField (t : Target) (kind : Kind) (field : String) (expected : FieldType) :
    Agrees (.ok ()) (t.checkField kind field expected) := by
  unfold Target.checkField
  split
  · split
    · rfl
    · exact ofMapping (.fieldType ..) _
  · split
    · rfl
    · exact ofMapping (.unknownField ..) _

theorem analyzer (t : Target) (name : Option String) (field : String) :
    Agrees (.ok ()) (t.analyzer name field) := by
  unfold Target.analyzer
  split
  · rfl
  · split
    · rfl
    · exact ofMapping (.unknownAnalyzer _) _

end Agrees

theorem Criterion.lower_agrees (t : Target) (field : String) (boost : Option Float) (c : Criterion)
    (h : ∀ bounds name, c ≠ .dateRange bounds (some name)) :
    Agrees (c.check.mapError At.here) (c.lower t field boost) := by
  cases c with
  | term | stem => rfl
  | flag value => exact (Agrees.checkField ..).bind_ok fun _ _ => .ok _
  | fuzzy word prefixLength fuzziness =>
    refine (Agrees.valid_unit _).bind_ok fun _ _ => ?_
    dsimp only
    split <;> rfl
  | regexp pattern => exact (Agrees.valid _).bind_ok fun _ _ => .ok _
  | wildcard pattern => exact (Agrees.valid _).bind_ok fun _ _ => .ok _
  | text words analyzer prefixLength fuzziness operator =>
    exact (Agrees.valid_unit _).bind_ok fun _ _ =>
      (Agrees.analyzer ..).bind_ok fun _ _ => .ok _
  | textPhrase words analyzer fuzziness =>
    refine (Agrees.valid_unit _).bind_ok fun _ _ =>
      (Agrees.analyzer ..).bind_ok fun _ _ => ?_
    dsimp only
    split <;> rfl
  | phrase terms fuzziness => exact (Agrees.valid_unit _).bind_ok fun _ _ => .ok _
  | multiPhrase terms fuzziness => exact (Agrees.valid_unit _).bind_ok fun _ _ => .ok _
  | numericRange b =>
    exact (Agrees.valid_unit _).bind_ok fun _ _ =>
      (Agrees.checkField ..).bind_ok fun _ _ => .ok _
  | termRange b => exact (Agrees.valid_unit _).bind_ok fun _ _ => .ok _
  | dateRange b parser =>
    cases parser with
    | some name => exact absurd rfl (h b name)
    | none =>
      -- The field is checked first here, which only the mapping can refuse.
      refine (Agrees.checkField ..).bind fun _ _ => ?_
      exact (Agrees.valid (b.dates none)).bind_ok fun _ _ => .ok _
  | geoBox topLeft bottomRight =>
    exact (Agrees.valid_unit _).bind_ok fun _ _ =>
      (Agrees.checkField ..).bind_ok fun _ _ => .ok _
  | geoDistance center distance =>
    exact (Agrees.valid _).bind_ok fun _ _ =>
      (Agrees.checkField ..).bind_ok fun _ _ => .ok _
  | geoPolygon points =>
    exact (Agrees.valid_unit _).bind_ok fun _ _ =>
      (Agrees.checkField ..).bind_ok fun _ _ => .ok _
  | geoShape shape relation =>
    exact (Agrees.valid_unit _).bind_ok fun _ _ =>
      (Agrees.checkField ..).bind_ok fun _ _ => .ok _
  | network block =>
    exact (Agrees.valid _).bind_ok fun _ _ =>
      (Agrees.checkField ..).bind_ok fun _ _ => .ok _

namespace Query

theorem checkNode_boolean {must should mustNot : Option Query} {boost : Option Float}
    (h : IsSettled (.boolean must should mustNot boost)) :
    checkNode (.boolean must should mustNot boost) = .ok () := by
  cases must with
  | some q => rfl
  | none =>
    cases should with
    | some q => rfl
    | none =>
      cases mustNot with
      | some q => rfl
      | none => exact h.elim

section Trees
variable {t : Target} {checkText : String → Except Invalid Unit}
  {lowerText : String → Except PlanError Plan}

mutual

/-- Both walks tell the same about a tree if they do about the texts of its query strings. -/
theorem checkTree_agrees (texts : ∀ text, Agrees (checkText text) (lowerText text)) :
    ∀ q : Query, q.Everywhere IsSettled →
      Agrees (q.checkTree checkText) (q.lowerTree t lowerText)
  | .onField c field boost, h => by
    have hc : ∀ bounds name, c ≠ .dateRange bounds (some name) := by
      rintro bounds name rfl
      exact h
    rw [checkTree, lowerTree]
    exact c.lower_agrees t (t.resolve field) boost hc
  | .documents ids boost, _ => by
    rw [checkTree, lowerTree]
    rfl
  | .everything boost, _ => by
    rw [checkTree, lowerTree]
    rfl
  | .nothing boost, _ => by
    rw [checkTree, lowerTree]
    rfl
  | .queryString text boost, _ => by
    rw [checkTree, lowerTree]
    exact texts text
  | .conjunction cs boost, h => by
    rw [checkTree, lowerTree]
    cases cs with
    | nil =>
      rw [checkEach]
      rfl
    | cons q rest =>
      exact (checkEach_agrees texts .conjunct 0 (q :: rest) h.2).bind_ok fun _ _ => .ok _
  | .disjunction ds min boost, h => by
    rw [checkTree, lowerTree]
    refine (Agrees.valid_unit (checkClauses ds.length min)).bind fun _ _ => ?_
    cases ds with
    | nil =>
      rw [checkEach]
      rfl
    | cons q rest =>
      exact (checkEach_agrees texts .disjunct 0 (q :: rest) h.2).bind_ok fun _ _ => .ok _
  | .boolean must should mustNot boost, h => by
    rw [checkTree, lowerTree, checkNode_boolean h.1]
    exact (checkSlot_agrees texts .must must h.2.1).bind fun _ _ =>
      (checkSlot_agrees texts .should should h.2.2.1).bind fun _ _ =>
        (checkSlot_agrees texts .mustNot mustNot h.2.2.2).bind_ok fun _ _ => .ok _

theorem checkEach_agrees (texts : ∀ text, Agrees (checkText text) (lowerText text))
    (step : Nat → Step) : ∀ (place : Nat) (qs : List Query), EverywhereIn IsSettled qs →
      Agrees (checkEach checkText step place qs) (lowerEach t lowerText qs)
  | _, [], _ => by
    rw [checkEach, lowerEach]
    rfl
  | place, q :: rest, h => by
    rw [checkEach, lowerEach]
    exact ((checkTree_agrees texts q h.1).below (step place)).bind fun _ _ =>
      (checkEach_agrees texts step (place + 1) rest h.2).bind_ok fun _ _ => .ok _

theorem checkSlot_agrees (texts : ∀ text, Agrees (checkText text) (lowerText text))
    (step : Step) : ∀ slot : Option Query, EverywhereSlot IsSettled slot →
      Agrees (checkSlot checkText step slot) (lowerSlot t lowerText slot)
  | none, _ => by
    rw [checkSlot, lowerSlot]
    rfl
  | some q, h => by
    rw [checkSlot, lowerSlot]
    exact ((checkTree_agrees texts q h).below step).bind_ok fun _ _ => .ok _

end

end Trees

/-- The grammar writes no boolean query without slots, and names no parser of dates. -/
theorem parse_settled {text : String} {q : Query} (h : parseQueryString text = .ok q) :
    q.Everywhere IsSettled := by
  refine Grammar.parse_everywhere ?_ trivial (fun _ => trivial) (fun _ _ _ _ => trivial) ?_ h
  · intro q hq
    cases hq <;> trivial
  · intro must should mustNot hslot
    cases must with
    | some q => trivial
    | none =>
      cases should with
      | some q => trivial
      | none =>
        cases mustNot with
        | some q => trivial
        | none => exact hslot ⟨rfl, rfl, rfl⟩

theorem checkText_agrees (t : Target) (text : String) :
    Agrees (checkText text) (lowerText t text) := by
  cases h : parseQueryString text with
  | error e =>
    simp only [checkText, lowerText, h]
    exact ⟨[], rfl⟩
  | ok q =>
    simp only [checkText, lowerText, h]
    exact checkTree_agrees (fun _ => .ok _) q (parse_settled h)

theorem validate_agrees {q : Query} (settled : q.Everywhere IsSettled) (t : Target) :
    Agrees q.validate (q.lower t) :=
  checkTree_agrees (checkText_agrees t) q settled

theorem compile_of_running {context : Context} (running : context.cancelled = false) (t : Target)
    (q : Query) : q.compile context t = q.lower t := by
  unfold compile Context.check
  rw [running]
  rfl

/-- A query with a plan is valid; what is wrong with a query that has none is what validation
reports at the end of its path; and a valid query lacks a plan only for reasons of the mapping. -/
theorem validate_of_compile {q : Query} (settled : q.Everywhere IsSettled) {context : Context}
    (running : context.cancelled = false) (t : Target) :
    (∀ p, q.compile context t = .ok p → q.validate = .ok ()) ∧
    (∀ v, q.compile context t = .error (.invalid v) → ∃ path, q.validate = .error ⟨path, v⟩) ∧
    (∀ e, q.compile context t = .error (.grammar e) →
      ∃ path, q.validate = .error ⟨path, .grammar e⟩) ∧
    (q.validate = .ok () → ∀ e, q.compile context t = .error e → e.OfMapping) := by
  rw [compile_of_running running]
  have h := validate_agrees settled t
  refine ⟨?_, ?_, ?_, ?_⟩
  · intro p hp
    rwa [hp] at h
  · intro v hv
    rwa [hv] at h
  · intro e he
    rwa [he] at h
  · intro hok e he
    rw [he] at h
    cases hv : e.violation? with
    | none => simpa only [Agrees, hv] using h
    | some v =>
      simp only [Agrees, hv] at h
      obtain ⟨path, hpath⟩ := h
      rw [hok] at hpath
      cases hpath

theorem validate_of_compile_nested :
    let q : Query :=
      .conjunction [.onField (.term "rust") "" none, .disjunction [] (some 1) none] none
    let t : Target := ⟨fun _ => [], Schema.initial.mapping, {}⟩
    q.Everywhere IsSettled ∧ q.compile {} t = .error (.invalid (.tooFewClauses 1 0)) ∧
      ∃ path, q.validate = .error ⟨path, .tooFewClauses 1 0⟩ := by
  intro q t
  have settled : q.Everywhere IsSettled := ⟨trivial, trivial, ⟨trivial, trivial⟩, trivial⟩
  have compiled : q.compile {} t = .error (.invalid (.tooFewClauses 1 0)) := rfl
  exact ⟨settled, compiled, (validate_of_compile settled rfl t).2.1 _ compiled⟩

end Query

end SearchQuery
