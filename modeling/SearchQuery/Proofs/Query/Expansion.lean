import SearchQuery.Proofs.Query.Clauses
import SearchQuery.Query.Expansion

/-!
# Expansion after the grammar

The grammar writes no query strings, so expansion parses every text once (`expand_eq`): a text
stands for the query that it denotes, with the boost of its node in place of none.
-/

set_option autoImplicit false
namespace SearchQuery.Query

/-- The node is no query string. -/
def IsStructured : Query → Prop
  | .queryString _ _ => False
  | _ => True

mutual

theorem hasQueryString_of_everywhere : ∀ q : Query, q.Everywhere IsStructured →
    q.hasQueryString = false
  | .onField .., _ => rfl
  | .documents .., _ => rfl
  | .everything .., _ => rfl
  | .nothing .., _ => rfl
  | .queryString .., h => h.elim
  | .conjunction cs _, h => anyQueryString_of_everywhere cs h.2
  | .disjunction ds _ _, h => anyQueryString_of_everywhere ds h.2
  | .boolean must should mustNot _, h => by
    rw [hasQueryString, slotHasQueryString_of_everywhere must h.2.1,
      slotHasQueryString_of_everywhere should h.2.2.1,
      slotHasQueryString_of_everywhere mustNot h.2.2.2]
    rfl

theorem anyQueryString_of_everywhere : ∀ qs : List Query, EverywhereIn IsStructured qs →
    anyQueryString qs = false
  | [], _ => rfl
  | q :: rest, h => by
    rw [anyQueryString, hasQueryString_of_everywhere q h.1, anyQueryString_of_everywhere rest h.2]
    rfl

theorem slotHasQueryString_of_everywhere : ∀ slot : Option Query, EverywhereSlot IsStructured slot →
    slotHasQueryString slot = false
  | none, _ => rfl
  | some q, h => hasQueryString_of_everywhere q h

end

theorem parse_hasQueryString {text : String} {q : Query} (h : parseQueryString text = .ok q) :
    q.hasQueryString = false := by
  refine hasQueryString_of_everywhere q ?_
  refine Grammar.parse_everywhere ?_ trivial (fun _ => trivial) (fun _ _ _ _ => trivial)
    (fun _ _ _ _ => trivial) h
  intro q hq
  cases hq <;> trivial

theorem hasQueryString_setBoost {q : Query} (h : q.hasQueryString = false) (b : Float) :
    (q.setBoost b).hasQueryString = false := by
  cases q <;> exact h

theorem hasQueryString_overrideBoost {q : Query} (h : q.hasQueryString = false)
    (boost : Option Float) : (q.overrideBoost boost).hasQueryString = false := by
  cases boost with
  | none => exact h
  | some b => exact hasQueryString_setBoost h b

section Replaced
variable {ε : Type} {onText : String → Option Float → Except (At ε) Query}

theorem replaceEach_nil {step : Nat → Step} {place : Nat} {es : List Query} :
    replaceEach onText step place [] = .ok es ↔ [] = es := by
  rw [replaceEach, Except.ok.injEq]

theorem replaceEach_cons {step : Nat → Step} {place : Nat} {q : Query} {rest es : List Query} :
    replaceEach onText step place (q :: rest) = .ok es ↔
      ∃ e others, q.replaceTexts onText = .ok e ∧
        replaceEach onText step (place + 1) rest = .ok others ∧ e :: others = es := by
  simp only [replaceEach, bind_eq_ok, below_eq_ok, pure_eq_ok]
  constructor
  · rintro ⟨e, first, others, each, h⟩
    exact ⟨e, others, first, each, h⟩
  · rintro ⟨e, others, first, each, h⟩
    exact ⟨e, first, others, each, h⟩

theorem replaceSlot_none {step : Step} {slot : Option Query} :
    replaceSlot onText step none = .ok slot ↔ none = slot := by
  rw [replaceSlot, Except.ok.injEq]

theorem replaceSlot_some {step : Step} {q : Query} {slot : Option Query} :
    replaceSlot onText step (some q) = .ok slot ↔
      ∃ e, q.replaceTexts onText = .ok e ∧ some e = slot := by
  simp only [replaceSlot, bind_eq_ok, below_eq_ok, pure_eq_ok]

theorem replaceTexts_conjunction {cs : List Query} {boost : Option Float} {e : Query} :
    (conjunction cs boost).replaceTexts onText = .ok e ↔
      ∃ es, replaceEach onText .conjunct 0 cs = .ok es ∧ conjunction es boost = e := by
  simp only [replaceTexts, bind_eq_ok, pure_eq_ok]

theorem replaceTexts_disjunction {ds : List Query} {min : Option UInt32} {boost : Option Float}
    {e : Query} : (disjunction ds min boost).replaceTexts onText = .ok e ↔
      ∃ es, replaceEach onText .disjunct 0 ds = .ok es ∧ disjunction es min boost = e := by
  simp only [replaceTexts, bind_eq_ok, pure_eq_ok]

theorem replaceTexts_boolean {must should mustNot : Option Query} {boost : Option Float}
    {e : Query} : (boolean must should mustNot boost).replaceTexts onText = .ok e ↔
      ∃ m s n, replaceSlot onText .must must = .ok m ∧ replaceSlot onText .should should = .ok s ∧
        replaceSlot onText .mustNot mustNot = .ok n ∧ boolean m s n boost = e := by
  simp only [replaceTexts, bind_eq_ok, pure_eq_ok]
  constructor
  · rintro ⟨m, hm, s, hs, n, hn, h⟩
    exact ⟨m, s, n, hm, hs, hn, h⟩
  · rintro ⟨m, s, n, hm, hs, hn, h⟩
    exact ⟨m, hm, s, hs, n, hn, h⟩

end Replaced

section Each
variable {ε : Type} {onText : String → Option Float → Except (At ε) Query} {step : Nat → Step}

theorem replaceEach_length {place : Nat} {qs es : List Query}
    (h : replaceEach onText step place qs = .ok es) : es.length = qs.length := by
  induction qs generalizing place es with
  | nil =>
    obtain rfl := replaceEach_nil.1 h
    rfl
  | cons q rest ih =>
    obtain ⟨e, es, -, hes, rfl⟩ := replaceEach_cons.1 h
    rw [List.length_cons, List.length_cons, ih hes]

theorem replaceEach_isEmpty {place : Nat} {qs es : List Query}
    (h : replaceEach onText step place qs = .ok es) : es.isEmpty = qs.isEmpty := by
  rw [Bool.eq_iff_iff, List.isEmpty_iff_length_eq_zero, List.isEmpty_iff_length_eq_zero,
    replaceEach_length h]

end Each

section Traversal
variable {ε : Type} {onText : String → Option Float → Except (At ε) Query}

mutual

theorem replaceTexts_of_structured : ∀ q : Query, q.hasQueryString = false →
    replaceTexts onText q = .ok q
  | .onField .., _ => by rw [replaceTexts]
  | .documents .., _ => by rw [replaceTexts]
  | .everything .., _ => by rw [replaceTexts]
  | .nothing .., _ => by rw [replaceTexts]
  | .queryString .., h => by cases h
  | .conjunction cs _, h => by
    rw [replaceTexts, replaceEach_of_structured .conjunct 0 cs h]
    rfl
  | .disjunction ds _ _, h => by
    rw [replaceTexts, replaceEach_of_structured .disjunct 0 ds h]
    rfl
  | .boolean must should mustNot _, h => by
    rw [hasQueryString, Bool.or_eq_false_iff, Bool.or_eq_false_iff] at h
    rw [replaceTexts, replaceSlot_of_structured .must must h.1.1,
      replaceSlot_of_structured .should should h.1.2,
      replaceSlot_of_structured .mustNot mustNot h.2]
    rfl

theorem replaceEach_of_structured (step : Nat → Step) : ∀ (place : Nat) (qs : List Query),
    anyQueryString qs = false → replaceEach onText step place qs = .ok qs
  | _, [], _ => by rw [replaceEach]
  | place, q :: rest, h => by
    rw [anyQueryString, Bool.or_eq_false_iff] at h
    rw [replaceEach, replaceTexts_of_structured q h.1,
      replaceEach_of_structured step (place + 1) rest h.2]
    rfl

theorem replaceSlot_of_structured (step : Step) : ∀ slot : Option Query,
    slotHasQueryString slot = false → replaceSlot onText step slot = .ok slot
  | none, _ => by rw [replaceSlot]
  | some q, h => by
    rw [replaceSlot, replaceTexts_of_structured q h]
    rfl

end

end Traversal

theorem expandWithin_of_structured {ε : Type} (parse : String → Except ε Query) (budget : Nat)
    {q : Query} (h : q.hasQueryString = false) : q.expandWithin parse budget = .ok q := by
  cases budget <;> exact replaceTexts_of_structured q h

/-- What stands for a query string: the query that its text denotes, with its boost. -/
def denoted (text : String) (boost : Option Float) : Except (ExpansionError GrammarError) Query :=
  match parseQueryString text with
  | .error e => .error (.here (.grammar e))
  | .ok q => .ok (q.overrideBoost boost)

theorem expand_eq (q : Query) : q.expand = q.replaceTexts denoted := by
  refine congrArg (fun onText => replaceTexts onText q) (funext fun text => funext fun boost => ?_)
  unfold denoted
  cases parsed : parseQueryString text with
  | error e => rfl
  | ok r =>
    exact expandWithin_of_structured _ _
      (hasQueryString_overrideBoost (parse_hasQueryString parsed) boost)

end SearchQuery.Query
