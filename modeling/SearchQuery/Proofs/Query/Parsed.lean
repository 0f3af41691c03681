import SearchQuery.Proofs.Query.Clauses
import SearchQuery.Proofs.Query.Represented

/-!
# The values of parsed queries

A boost is checked to be finite when it is parsed, and the number of a comparison is not.  A query
that was parsed comes back from its value unless such a number is infinite or none at all.
-/

set_option autoImplicit false
namespace SearchQuery

namespace Grammar

theorem parseText_boost {field : String} {word : List Char} {c k : Cursor} {q : Query}
    (h : parseText field word c = .ok (q, k)) : q.boost? = none := by
  unfold parseText at h
  split at h
  · obtain ⟨f, -, rfl⟩ := Parsed.map_eq_ok.1 h
    rfl
  · cases h
    rfl

theorem parseOperand_boost {field : String} {lower inclusive : Bool} {c k : Cursor} {q : Query}
    (h : parseOperand field lower inclusive c = .ok (q, k)) : q.boost? = none := by
  unfold parseOperand at h
  split at h
  · obtain ⟨date, -, rfl⟩ := Parsed.map_eq_ok.1 h
    rfl
  · dsimp only at h
    split at h
    · cases h
      rfl
    · cases h

theorem boost_setBoost (q : Query) (b : Float) : (q.setBoost b).boost? = some b := by
  cases q <;> rfl

theorem parseClause_boost {c k : Cursor} {clause : Occur × Query}
    (h : parseClause c = .ok (clause, k)) : ∀ x ∈ clause.2.boost?, x.isFinite = true := by
  have plain {q : Query} (none : q.boost? = none) : ∀ x ∈ q.boost?, x.isFinite = true := by
    simp [none]
  refine parseClause_forall (p := fun q => ∀ x ∈ q.boost?, x.isFinite = true)
    (fun read => plain (parseText_boost read)) (fun read => plain (parseOperand_boost read))
    (fun _ _ => plain rfl) (fun _ _ => plain rfl) ?_ h
  intro q b finite _
  rw [boost_setBoost]
  rintro x ⟨⟩
  exact finite

end Grammar

namespace Query
open Grammar (IsClause)

/-- The ends of a range of numbers are finite. -/
def HasFiniteEnds : Query → Prop
  | .onField (.numericRange b) _ _ =>
    (∀ x ∈ b.min, x.isFinite = true) ∧ ∀ x ∈ b.max, x.isFinite = true
  | _ => True

theorem isBound_halfRange {α : Type} (lower inclusive : Bool) (x : α) :
    (Grammar.halfRange lower inclusive x).IsBound := by
  cases lower with
  | true => exact .inl (Option.some_ne_none x)
  | false => exact .inr (Option.some_ne_none x)

theorem isRepresentable_of_isClause {q : Query} (h : IsClause q)
    (boost : ∀ x ∈ q.boost?, x.isFinite = true) : q.IsRepresentable ↔ q.HasFiniteEnds := by
  cases h with
  | words | phrase | pattern => exact iff_of_true ⟨⟨trivial, boost⟩, trivial⟩ trivial
  | dates lower inclusive date field b =>
    exact iff_of_true ⟨⟨trivial, boost⟩, isBound_halfRange lower inclusive date⟩ trivial
  | numbers lower inclusive x field b =>
    constructor
    · intro representable
      exact representable.finite.1
    · intro ends
      exact ⟨⟨ends, boost⟩, isBound_halfRange lower inclusive x⟩

/-- In the query of a text only the ends of ranges may be missing from its value. -/
theorem isRepresentable_of_parse {text : String} {q : Query} (h : parseQueryString text = .ok q) :
    q.Everywhere fun p => p.IsRepresentable ↔ p.HasFiniteEnds := by
  obtain ⟨clauses, parsed, rfl⟩ := Grammar.parseQueryString_eq_ok.1 h
  have unboosted : ∀ x ∈ (none : Option Float), x.isFinite = true := by simp
  refine Grammar.assemble_everywhere ?_ ?_ ?_ ?_ ?_
  · exact iff_of_true ⟨unboosted, trivial⟩ trivial
  · intro cs
    exact iff_of_true ⟨unboosted, trivial⟩ trivial
  · intro ds min _ _
    exact iff_of_true ⟨unboosted, trivial⟩ trivial
  · intro must should mustNot taken
    have slot : must ≠ none ∨ should ≠ none ∨ mustNot ≠ none := by
      rwa [← Classical.not_and_iff_not_or_not, ← Classical.not_and_iff_not_or_not]
    exact iff_of_true ⟨unboosted, slot⟩ trivial
  · intro clause member
    have shape := Grammar.parseClauses_forall Grammar.parseClause_isClause parsed clause member
    have boost := Grammar.parseClauses_forall Grammar.parseClause_boost parsed clause member
    exact shape.everywhere (isRepresentable_of_isClause shape boost)

/-- The query of a text is decoded from its own value as long as all numbers that are compared with
are finite; nothing equal to it is decoded otherwise. -/
theorem decode_parsed {text : String} {q : Query} (h : parseQueryString text = .ok q) :
    (q.Everywhere HasFiniteEnds → decode q.value = .ok q ∧ q.same q = true) ∧
      ((∃ p, decode q.value = .ok p ∧ p.same q = true) → q.Everywhere HasFiniteEnds) := by
  have agree := isRepresentable_of_parse h
  constructor
  · intro ends
    have representable : q.Everywhere IsRepresentable :=
      everywhere_combine (fun _ agree ends => agree.2 ends) q agree ends
    exact (returns_iff q q).2 ⟨rfl, representable⟩
  · rintro ⟨p, decoded, same⟩
    obtain ⟨-, representable⟩ := (returns_iff q p).1 ⟨decoded, same⟩
    exact everywhere_combine (fun _ agree representable => agree.1 representable) q agree
      representable

section Examples
open Grammar

/-- A word with a boost, and a number of at least one. -/
theorem decode_parsed_comparison :
    let word : Query := .onField (.text "go" none none none none) "" (some 2)
    let range : Query := .onField (.numericRange ⟨some 1, none, some true, none⟩) "n" none
    let q : Query := .boolean (some (.conjunction [word] none))
      (some (.disjunction [range] none none)) none none
    parseQueryString "+go^2 n:>=1" = .ok q ∧ decode q.value = .ok q ∧ q.same q = true := by
  intro word range q
  have go : Cursor.word ⟨1, ['g', 'o', '^', '2', ' ', 'n', ':', '>', '=', '1']⟩ =
      (['g', 'o'], ⟨3, ['^', '2', ' ', 'n', ':', '>', '=', '1']⟩) := rfl
  have n : Cursor.word ⟨6, ['n', ':', '>', '=', '1']⟩ = (['n'], ⟨7, [':', '>', '=', '1']⟩) :=
    rfl
  have one : Cursor.word ⟨10, ['1']⟩ = (['1'], ⟨11, []⟩) := rfl
  have number : Decimal.read? (String.ofList ['1']) = some 1 := rfl
  have first : parseClause
      (Cursor.skipBlank ⟨0, ['+', 'g', 'o', '^', '2', ' ', 'n', ':', '>', '=', '1']⟩) =
      .ok ((.must, word), ⟨5, [' ', 'n', ':', '>', '=', '1']⟩) := by
    change parseClause ⟨0, ['+', 'g', 'o', '^', '2', ' ', 'n', ':', '>', '=', '1']⟩ = _
    simp only [parseClause, parseSigned, parseBody, parseAtom, go, parseText]
    rfl
  have second : parseClause (Cursor.skipBlank ⟨5, [' ', 'n', ':', '>', '=', '1']⟩) =
      .ok ((.should, range), ⟨11, []⟩) := by
    change parseClause ⟨6, ['n', ':', '>', '=', '1']⟩ = _
    simp only [parseClause, parseBody, parseAtom, n, parseValue, parseComparison, parseOperand, one,
      number]
    rfl
  have clauses : parseClauses ⟨0, ['+', 'g', 'o', '^', '2', ' ', 'n', ':', '>', '=', '1']⟩ =
      .ok [(.must, word), (.should, range)] := by
    rw [parseClauses_cons first, parseClauses_cons second, parseClauses_nil rfl]
    rfl
  have parsed : parseQueryString "+go^2 n:>=1" = .ok q :=
    parseQueryString_eq_ok.2 ⟨_, clauses, rfl⟩
  have finite : ∀ x ∈ (some 1 : Option Float), x.isFinite = true := by
    rintro x ⟨⟩
    rfl
  have ends : q.Everywhere HasFiniteEnds :=
    ⟨trivial, ⟨trivial, trivial, trivial⟩, ⟨trivial, ⟨finite, by simp⟩, trivial⟩, trivial⟩
  exact ⟨parsed, (decode_parsed parsed).1 ends⟩

/-- Infinity is left out of the value of a comparison with it, and with it goes what told the
kind. -/
theorem decode_parsed_loses_infinity :
    let range : Query :=
      .onField (.numericRange ⟨some (1.0 / 0.0), none, some false, none⟩) "n" none
    let q : Query := .boolean none (some (.disjunction [range] (some 1) none)) none none
    parseQueryString "n:>inf" = .ok q ∧ q.same q = true ∧
      ¬ ∃ p, decode q.value = .ok p ∧ p.same q = true := by
  intro range q
  have n : Cursor.word ⟨0, ['n', ':', '>', 'i', 'n', 'f']⟩ =
      (['n'], ⟨1, [':', '>', 'i', 'n', 'f']⟩) := rfl
  have inf : Cursor.word ⟨3, ['i', 'n', 'f']⟩ = (['i', 'n', 'f'], ⟨6, []⟩) := rfl
  have number : Decimal.read? (String.ofList ['i', 'n', 'f']) = some (1.0 / 0.0) := rfl
  have clause : parseClause (Cursor.skipBlank ⟨0, ['n', ':', '>', 'i', 'n', 'f']⟩) =
      .ok ((.should, range), ⟨6, []⟩) := by
    change parseClause ⟨0, ['n', ':', '>', 'i', 'n', 'f']⟩ = _
    simp only [parseClause, parseBody, parseAtom, n, parseValue, parseComparison, parseOperand, inf,
      number]
    rfl
  have clauses : parseClauses ⟨0, ['n', ':', '>', 'i', 'n', 'f']⟩ = .ok [(.should, range)] := by
    rw [parseClauses_cons clause, parseClauses_nil rfl]
    rfl
  refine ⟨parseQueryString_eq_ok.2 ⟨_, clauses, rfl⟩, rfl, ?_⟩
  rintro ⟨p, decoded, same⟩
  obtain ⟨-, -, -, ⟨-, disjunct, -⟩, -⟩ := (returns_iff q p).1 ⟨decoded, same⟩
  have finite : (1.0 / 0.0 : Float).isFinite = true := disjunct.finite.1.1 _ rfl
  exact absurd finite (by decide)

end Examples

end Query

end SearchQuery
