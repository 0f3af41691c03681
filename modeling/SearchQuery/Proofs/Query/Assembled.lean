import SearchQuery.Proofs.Query.Offenders
import SearchQuery.Proofs.Query.Ranges

/-!
# The queries of texts

The query of a text is a boolean query of lists of clauses, or matches nothing if the text is blank.
It may still be invalid, but only for the sake of one of its clauses: its edits are too many, its
pattern is none, or its date is none (`Grammar.Flaw`).
-/

set_option autoImplicit false
namespace SearchQuery

def Bounds.HasOneEnd {α : Type} (b : Bounds α) : Prop := b.min.isSome = !b.max.isSome

namespace Grammar

theorem hasOneEnd_halfRange {α : Type} (lower inclusive : Bool) (x : α) :
    (halfRange lower inclusive x).HasOneEnd := by
  cases lower <;> rfl

def HasClauseForm : Query → Prop
  | .onField (.text ..) _ _ => True
  | .onField (.textPhrase ..) _ _ => True
  | .onField (.regexp _) _ _ => True
  | .onField (.numericRange b) _ _ => b.HasOneEnd
  | .onField (.dateRange b _) _ _ => b.HasOneEnd
  | _ => False

theorem IsClause.hasClauseForm {q : Query} (h : IsClause q) : HasClauseForm q := by
  cases h with
  | words | phrase | pattern => trivial
  | numbers lower inclusive x => exact hasOneEnd_halfRange lower inclusive x
  | dates lower inclusive date => exact hasOneEnd_halfRange lower inclusive date

/-- A slot is taken, and each slot that is taken holds a list of clauses that is not empty.  One of
the optional clauses has to match when there are no required ones. -/
structure IsOutline (must should mustNot : Option Query) : Prop where
  taken : must ≠ none ∨ should ≠ none ∨ mustNot ≠ none
  required : ∀ q ∈ must, ∃ cs, q = .conjunction cs none ∧ cs ≠ [] ∧ ∀ c ∈ cs, HasClauseForm c
  optional : ∀ q ∈ should, ∃ ds, q = .disjunction ds (if must.isNone then some 1 else none) none ∧
    ds ≠ [] ∧ ∀ d ∈ ds, HasClauseForm d
  excluded : ∀ q ∈ mustNot, ∃ ds, q = .disjunction ds none none ∧ ds ≠ [] ∧
    ∀ d ∈ ds, HasClauseForm d

theorem mem_group {make : List Query → Query} {qs : List Query} {q : Query}
    (h : q ∈ group make qs) : q = make qs ∧ qs ≠ [] := by
  cases qs with
  | nil => cases h
  | cons first rest =>
    cases h
    exact ⟨rfl, List.cons_ne_nil first rest⟩

theorem isNone_group (make : List Query → Query) (qs : List Query) :
    (group make qs).isNone = qs.isEmpty := by
  cases qs <;> rfl

theorem assemble_outline {clauses : List (Occur × Query)} (some : clauses ≠ [])
    (h : ∀ c ∈ clauses, HasClauseForm c.2) : ∃ must should mustNot,
      assemble clauses = .boolean must should mustNot none ∧ IsOutline must should mustNot := by
  have members (occur : Occur) : ∀ q ∈ clausesOf occur clauses, HasClauseForm q := by
    intro q mem
    exact h _ (mem_clausesOf.1 mem)
  rw [assemble, List.isEmpty_eq_false_iff.2 some]
  refine ⟨_, _, _, rfl, ?_, ?_, ?_, ?_⟩
  · have held := exists_slot some
    simp only [ne_eq, group_eq_none]
    rwa [← Classical.not_and_iff_not_or_not, ← Classical.not_and_iff_not_or_not]
  · intro q mem
    obtain ⟨rfl, ne⟩ := mem_group mem
    exact ⟨_, rfl, ne, members .must⟩
  · intro q mem
    obtain ⟨rfl, ne⟩ := mem_group mem
    rw [isNone_group]
    exact ⟨_, rfl, ne, members .should⟩
  · intro q mem
    obtain ⟨rfl, ne⟩ := mem_group mem
    exact ⟨_, rfl, ne, members .mustNot⟩

theorem blankFrom_rest_eq_nil (offset : Nat) (cs : List Char) :
    (Cursor.blankFrom offset cs).rest = [] ↔ ∀ c ∈ cs, isBlank c = true := by
  induction cs generalizing offset with
  | nil => simp [Cursor.blankFrom]
  | cons c rest ih =>
    rw [Cursor.blankFrom, List.forall_mem_cons]
    cases blank : isBlank c with
    | true => simp [ih]
    | false => simp

theorem parseClauses_eq_nil {c : Cursor} {clauses : List (Occur × Query)}
    (h : parseClauses c = .ok clauses) : clauses = [] ↔ ∀ d ∈ c.rest, isBlank d = true := by
  rw [← blankFrom_rest_eq_nil c.offset]
  change _ ↔ c.skipBlank.rest = []
  constructor
  · rintro rfl
    rw [parseClauses] at h
    split at h
    · rename_i empty
      exact List.isEmpty_iff.1 empty
    · split at h
      · cases h
      · obtain ⟨rest, -, ⟨⟩⟩ := map_eq_ok.1 h
  · intro empty
    rw [parseClauses_nil empty] at h
    cases h
    rfl

/-- What can be wrong with a clause. -/
inductive Flaw : Query → Violation → Prop
  | edits {text field : String} {boost : Option Float} {n : Int64} (many : 2 < n.toInt) :
    Flaw (.onField (.text text none none (some (.edits n)) none) field boost) (.fuzziness n)
  | pattern {pattern field : String} {boost : Option Float} (fault : Pattern.Fault) :
    Flaw (.onField (.regexp pattern) field boost) (.pattern pattern fault)
  | date {lower inclusive : Bool} {date field : String} {boost : Option Float} (some : date ≠ "")
      (fault : DateFault) :
    Flaw (.onField (.dateRange (halfRange lower inclusive date) none) field boost)
      (.date date fault)
  | noDate {lower inclusive : Bool} {field : String} {boost : Option Float} :
    Flaw (.onField (.dateRange (halfRange lower inclusive "") none) field boost)
      (.missingBounds .dateRange)

def HasNaturalEdits : Query → Prop
  | .onField (.text _ _ _ (some (.edits n)) _) _ _ => 0 ≤ n.toInt
  | _ => True

theorem parseEdits_natural {c k : Cursor} {f : Fuzziness} (h : parseEdits c = .ok (f, k)) :
    ∃ n, f = .edits n ∧ 0 ≤ n.toInt := by
  unfold parseEdits at h
  simp only at h
  split at h
  · cases h
    exact ⟨1, rfl, by decide⟩
  · split at h
    · rename_i checked
      cases h
      have small := of_decide_eq_true (Bool.and_eq_true_iff.1 checked).2
      refine ⟨_, rfl, ?_⟩
      rw [Int64.toInt_ofNat_of_lt small]
      exact Int.natCast_nonneg _
    · cases h

theorem parseText_natural {field : String} {word : List Char} {c k : Cursor} {q : Query}
    (h : parseText field word c = .ok (q, k)) : HasNaturalEdits q := by
  unfold parseText at h
  split at h
  · obtain ⟨f, read, rfl⟩ := Parsed.map_eq_ok.1 h
    obtain ⟨n, rfl, natural⟩ := parseEdits_natural read
    exact natural
  · cases h
    trivial

theorem parseOperand_natural {field : String} {lower inclusive : Bool} {c k : Cursor} {q : Query}
    (h : parseOperand field lower inclusive c = .ok (q, k)) : HasNaturalEdits q := by
  unfold parseOperand at h
  split at h
  · obtain ⟨date, -, rfl⟩ := Parsed.map_eq_ok.1 h
    trivial
  · dsimp only at h
    split at h
    · cases h
      trivial
    · cases h

theorem setBoost_natural {q : Query} (h : HasNaturalEdits q) (b : Float) :
    HasNaturalEdits (q.setBoost b) := by
  cases q with
  | onField c field boost =>
    cases c with
    | text words analyzer prefixLength fuzziness operator =>
      cases fuzziness with
      | none => trivial
      | some f =>
        cases f with
        | edits n => exact h
        | auto => trivial
    | _ => trivial
  | _ => trivial

theorem parseClause_natural {c k : Cursor} {clause : Occur × Query}
    (h : parseClause c = .ok (clause, k)) : HasNaturalEdits clause.2 :=
  parseClause_forall parseText_natural parseOperand_natural (fun _ _ => trivial)
    (fun _ _ => trivial) (fun b _ natural => setBoost_natural natural b) h

theorem checkDates_halfRange (lower inclusive : Bool) {date : String} (some : date ≠ "") :
    (halfRange lower inclusive date).checkDates none = (dateOf none date).map fun _ => () := by
  rw [Bounds.checkDates, Bounds.dates_halfRange none lower inclusive some]
  cases dateOf none date <;> rfl

theorem many_of_invalid {n : Int64} (natural : 0 ≤ n.toInt)
    (invalid : ¬(Fuzziness.edits n).isValid = true) : 2 < n.toInt := by
  simp only [Fuzziness.isValid, Bool.and_eq_true, decide_eq_true_eq] at invalid
  simp only [Fuzziness.maxEdits] at invalid
  omega

theorem flaw_of_checkNode {q : Query} {v : Violation} (clause : IsClause q)
    (natural : HasNaturalEdits q) (h : q.checkNode = .error v) : Flaw q v := by
  cases clause with
  | words text fuzziness field boost =>
    cases fuzziness with
    | none => cases h
    | some f =>
      cases f with
      | auto => cases h
      | edits n =>
        change (if (Fuzziness.edits n).isValid then _ else _) = _ at h
        split at h
        · cases h
        · rename_i invalid
          cases h
          exact .edits (many_of_invalid natural invalid)
  | phrase text field boost => cases h
  | pattern text field boost =>
    change (patternOf text).map _ = _ at h
    obtain ⟨fault, -, rfl⟩ := mapError_eq_error.1 (map_eq_error.1 h)
    exact .pattern fault
  | numbers lower inclusive x field boost => cases lower <;> cases h
  | dates lower inclusive date field boost =>
    change (halfRange lower inclusive date).checkDates none = _ at h
    by_cases empty : date = ""
    · subst empty
      cases lower <;> cases h <;> exact .noDate
    · rw [checkDates_halfRange lower inclusive empty] at h
      obtain ⟨fault, rfl⟩ := dateOf_eq_error (map_eq_error.1 h)
      exact .date empty fault

theorem parse_flaws {text : String} {q : Query} (h : parseQueryString text = .ok q) :
    q.Everywhere fun node => ∀ v, node.checkNode = .error v → Flaw node v := by
  obtain ⟨clauses, parsed, rfl⟩ := parseQueryString_eq_ok.1 h
  refine assemble_everywhere ?_ ?_ ?_ ?_ ?_
  · rintro v ⟨⟩
  · rintro cs v ⟨⟩
  · intro ds min some one v failed
    have least : (min.getD 0).toNat ≤ ds.length := by
      cases min with
      | none => exact Nat.zero_le _
      | some least =>
        cases one least rfl
        exact List.length_pos_iff.2 some
    rw [Query.checkNode, checkClauses, if_neg (Nat.not_lt.2 least)] at failed
    cases failed
  · intro must should mustNot taken v failed
    cases must with
    | some q => cases failed
    | none =>
      cases should with
      | some q => cases failed
      | none =>
        cases mustNot with
        | some q => cases failed
        | none => exact absurd ⟨rfl, rfl, rfl⟩ taken
  · intro clause member
    have form := parseClauses_forall parseClause_isClause parsed clause member
    have natural := parseClauses_forall parseClause_natural parsed clause member
    exact form.everywhere fun v => flaw_of_checkNode form natural

end Grammar

namespace Query
open Grammar

theorem kind_assemble (clauses : List (Occur × Query)) :
    (assemble clauses).kind = .nothing ↔ clauses = [] := by
  cases clauses <;> simp [assemble, kind]

theorem flaw_of_validate {text : String} {q : Query} (h : parseQueryString text = .ok q)
    {report : Invalid} (invalid : q.validate = .error report) :
    ∃ clause, q.nodeAt? report.path = some clause ∧ Flaw clause report.cause := by
  have reports : Reports (NodeFaults q) q.validate := checkTree_reports q (parse_hasQueryString h)
  rw [invalid] at reports
  cases reports with
  | error found _ =>
    obtain ⟨node, there, failed⟩ := found
    exact ⟨node, there, (parse_flaws h).nodeAt there _ failed⟩

/-- The query of a text matches nothing if the text is blank, and otherwise is a boolean query of
lists of clauses without a boost.  If it is invalid, the report leads to a clause with too many
edits, with a pattern that is none, or with a date that is none or empty. -/
theorem parse_outline {text : String} {q : Query} (h : parseQueryString text = .ok q) :
    (q.kind = .nothing ↔ ∀ c ∈ text.toList, isBlank c = true) ∧
    (q.kind ≠ .nothing → ∃ must should mustNot,
      q = .boolean must should mustNot none ∧ IsOutline must should mustNot) ∧
    ∀ report, q.validate = .error report →
      ∃ clause, q.nodeAt? report.path = some clause ∧ Flaw clause report.cause := by
  refine ⟨?_, ?_, fun report => flaw_of_validate h⟩
  · obtain ⟨clauses, parsed, rfl⟩ := parseQueryString_eq_ok.1 h
    rw [kind_assemble]
    exact parseClauses_eq_nil parsed
  · intro kind
    obtain ⟨clauses, parsed, rfl⟩ := parseQueryString_eq_ok.1 h
    rw [ne_eq, kind_assemble] at kind
    apply assemble_outline kind
    intro c member
    exact (parseClauses_forall parseClause_isClause parsed c member).hasClauseForm

/-- The word has too many edits, and the excluded range has no date. -/
theorem parse_outline_excluded :
    let word : Query := .onField (.text "go" none none (some (.edits 3)) none) "" none
    let dates : Query := .onField (.dateRange (halfRange false false "") none) "d" none
    let q : Query := .boolean (some (.conjunction [word] none)) none
      (some (.disjunction [dates] none none)) none
    parseQueryString "+go~3 -d:<\"\"" = .ok q ∧ q.kind ≠ .nothing ∧
      (∃ must should mustNot,
        q = .boolean must should mustNot none ∧ IsOutline must should mustNot) ∧
      q.validate = .error ⟨[.must, .conjunct 0], .fuzziness 3⟩ ∧
      ∃ clause, q.nodeAt? [.must, .conjunct 0] = some clause ∧ Flaw clause (.fuzziness 3) := by
  intro word dates q
  have clause₁ : parseClause (Cursor.skipBlank
      ⟨0, ['+', 'g', 'o', '~', '3', ' ', '-', 'd', ':', '<', '"', '"']⟩) =
        .ok ((.must, word), ⟨5, [' ', '-', 'd', ':', '<', '"', '"']⟩) := rfl
  have clause₂ : parseClause (Cursor.skipBlank ⟨5, [' ', '-', 'd', ':', '<', '"', '"']⟩) =
      .ok ((.mustNot, dates), ⟨12, []⟩) := rfl
  have clauses : parseClauses ⟨0, "+go~3 -d:<\"\"".toList⟩ =
      .ok [(.must, word), (.mustNot, dates)] := by
    refine (parseClauses_cons clause₁).trans ?_
    rw [parseClauses_cons clause₂, parseClauses_nil rfl]
    rfl
  have parsed : parseQueryString "+go~3 -d:<\"\"" = .ok q :=
    parseQueryString_eq_ok.2 ⟨_, clauses, rfl⟩
  have kind : q.kind ≠ .nothing := by
    rintro ⟨⟩
  have invalid : q.validate = .error ⟨[.must, .conjunct 0], .fuzziness 3⟩ := rfl
  obtain ⟨-, outline, flaw⟩ := parse_outline parsed
  exact ⟨parsed, kind, outline kind, invalid, flaw _ invalid⟩

end Query

end SearchQuery
