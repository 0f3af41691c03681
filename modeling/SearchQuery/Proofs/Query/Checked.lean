import SearchQuery.Proofs.Query.Expansion
import SearchQuery.Query.Validation

/-!
# Validation of expanded queries

A query string is checked as the query that its text denotes, and expansion puts that query in its
place.  No step of a path leads into a query string, and no check looks at a boost, so what is wrong
with a query and where it is wrong stay the same when its query strings are expanded.
-/

set_option autoImplicit false
namespace SearchQuery.Query

section Structured
variable (f g : String → Except Invalid Unit)

mutual

theorem checkTree_of_structured : ∀ q : Query, q.hasQueryString = false →
    q.checkTree f = q.checkTree g
  | .onField .., _ => by rw [checkTree, checkTree]
  | .documents .., _ => by rw [checkTree, checkTree]
  | .everything .., _ => by rw [checkTree, checkTree]
  | .nothing .., _ => by rw [checkTree, checkTree]
  | .queryString .., h => by cases h
  | .conjunction cs _, h => by
    rw [checkTree, checkTree, checkEach_of_structured .conjunct 0 cs h]
  | .disjunction ds _ _, h => by
    rw [checkTree, checkTree, checkEach_of_structured .disjunct 0 ds h]
  | .boolean must should mustNot _, h => by
    rw [hasQueryString, Bool.or_eq_false_iff, Bool.or_eq_false_iff] at h
    rw [checkTree, checkTree, checkSlot_of_structured .must must h.1.1,
      checkSlot_of_structured .should should h.1.2, checkSlot_of_structured .mustNot mustNot h.2]

theorem checkEach_of_structured (step : Nat → Step) : ∀ (place : Nat) (qs : List Query),
    anyQueryString qs = false → checkEach f step place qs = checkEach g step place qs
  | _, [], _ => by rw [checkEach, checkEach]
  | place, q :: rest, h => by
    rw [anyQueryString, Bool.or_eq_false_iff] at h
    rw [checkEach, checkEach, checkTree_of_structured q h.1,
      checkEach_of_structured step (place + 1) rest h.2]

theorem checkSlot_of_structured (step : Step) : ∀ slot : Option Query,
    slotHasQueryString slot = false → checkSlot f step slot = checkSlot g step slot
  | none, _ => by rw [checkSlot, checkSlot]
  | some q, h => by rw [checkSlot, checkSlot, checkTree_of_structured q h]

end

end Structured

theorem checkText_of_parse {text : String} {q : Query} (h : parseQueryString text = .ok q) :
    checkText text = q.validate := by
  rw [checkText, h]
  exact checkTree_of_structured _ _ q (parse_hasQueryString h)

theorem checkTree_overrideBoost (onText : String → Except Invalid Unit) (boost : Option Float)
    (q : Query) : (q.overrideBoost boost).checkTree onText = q.checkTree onText := by
  cases boost with
  | none => rfl
  | some b =>
    change (q.setBoost b).checkTree onText = _
    cases q with
    | boolean must should mustNot boost =>
      rw [setBoost, checkTree, checkTree]
      cases must <;> cases should <;> cases mustNot <;> rfl
    | _ => rw [setBoost, checkTree, checkTree] <;> rfl

theorem denoted_validate {text : String} {boost : Option Float} {e : Query}
    (h : denoted text boost = .ok e) : e.validate = checkText text := by
  unfold denoted at h
  cases parsed : parseQueryString text with
  | error fault =>
    rw [parsed] at h
    cases h
  | ok q =>
    rw [parsed] at h
    cases h
    rw [checkText_of_parse parsed]
    exact checkTree_overrideBoost checkText boost q

theorem replaceSlot_isSome {ε : Type} {onText : String → Option Float → Except (At ε) Query}
    {step : Step} {slot slot' : Option Query} (h : replaceSlot onText step slot = .ok slot') :
    slot'.isSome = slot.isSome := by
  cases slot with
  | none =>
    obtain rfl := replaceSlot_none.1 h
    rfl
  | some q =>
    obtain ⟨e, -, rfl⟩ := replaceSlot_some.1 h
    rfl

theorem checkNode_boolean_eq (must should mustNot : Option Query) (boost : Option Float) :
    checkNode (.boolean must should mustNot boost) =
      if must.isSome || should.isSome || mustNot.isSome then .ok () else .error .emptyBoolean := by
  cases must <;> cases should <;> cases mustNot <;> rfl

mutual

/-- The two checks meet the same nodes in one order, a denoted query where a text stood. -/
theorem checkTree_replaceTexts : ∀ q e : Query, q.replaceTexts denoted = .ok e →
    e.checkTree checkText = q.checkTree checkText
  | .onField .., e, h => by
    rw [replaceTexts] at h
    cases h
    rfl
  | .documents .., e, h => by
    rw [replaceTexts] at h
    cases h
    rfl
  | .everything .., e, h => by
    rw [replaceTexts] at h
    cases h
    rfl
  | .nothing .., e, h => by
    rw [replaceTexts] at h
    cases h
    rfl
  | .queryString text boost, e, h => by
    rw [replaceTexts] at h
    rw [checkTree]
    exact denoted_validate h
  | .conjunction cs boost, e, h => by
    obtain ⟨es, each, rfl⟩ := replaceTexts_conjunction.1 h
    rw [checkTree, checkTree, checkEach_replaceEach .conjunct 0 cs es each]
  | .disjunction ds min boost, e, h => by
    obtain ⟨es, each, rfl⟩ := replaceTexts_disjunction.1 h
    rw [checkTree, checkTree, checkNode, checkNode, replaceEach_length each,
      checkEach_replaceEach .disjunct 0 ds es each]
  | .boolean must should mustNot boost, e, h => by
    obtain ⟨must', should', mustNot', hmust, hshould, hmustNot, rfl⟩ := replaceTexts_boolean.1 h
    rw [checkTree, checkTree, checkNode_boolean_eq, checkNode_boolean_eq, replaceSlot_isSome hmust,
      replaceSlot_isSome hshould, replaceSlot_isSome hmustNot,
      checkSlot_replaceSlot .must must must' hmust,
      checkSlot_replaceSlot .should should should' hshould,
      checkSlot_replaceSlot .mustNot mustNot mustNot' hmustNot]

theorem checkEach_replaceEach (step : Nat → Step) : ∀ (place : Nat) (qs es : List Query),
    replaceEach denoted step place qs = .ok es →
      checkEach checkText step place es = checkEach checkText step place qs
  | place, [], es, h => by
    obtain rfl := replaceEach_nil.1 h
    rfl
  | place, q :: rest, es, h => by
    obtain ⟨e, es, first, others, rfl⟩ := replaceEach_cons.1 h
    rw [checkEach, checkEach, checkTree_replaceTexts q e first,
      checkEach_replaceEach step (place + 1) rest es others]

theorem checkSlot_replaceSlot (step : Step) : ∀ slot slot' : Option Query,
    replaceSlot denoted step slot = .ok slot' →
      checkSlot checkText step slot' = checkSlot checkText step slot
  | none, slot', h => by
    obtain rfl := replaceSlot_none.1 h
    rfl
  | some q, slot', h => by
    obtain ⟨e, first, rfl⟩ := replaceSlot_some.1 h
    rw [checkSlot, checkSlot, checkTree_replaceTexts q e first]

end

/-- An expanded query is valid when the query is, and otherwise the same is wrong with it at the end
of the same path. -/
theorem validate_of_expand {q e : Query} (h : q.expand = .ok e) : q.validate = e.validate := by
  rw [expand_eq] at h
  exact (checkTree_replaceTexts q e h).symm

/-- Three edits are too many, in a query string as in the clause that it denotes. -/
theorem validate_of_expand_nested :
    let word : Query := .onField (.text "go" none none (some (.edits 3)) none) "" none
    let clauses : Query := .disjunction [word] (some 1) none
    let q : Query := .conjunction [.everything none, .queryString "go~3" (some 2)] none
    let e : Query :=
      .conjunction [.everything none, .boolean none (some clauses) none (some 2)] none
    q.expand = .ok e ∧ q.validate = e.validate ∧
      e.validate = .error ⟨[.conjunct 1, .should, .disjunct 0], .fuzziness 3⟩ := by
  intro word clauses q e
  have expanded : q.expand = .ok e := by
    rw [expand_eq]
    with_unfolding_all rfl
  exact ⟨expanded, validate_of_expand expanded, rfl⟩

end SearchQuery.Query
