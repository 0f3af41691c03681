import SearchQuery.Plan.Lowering
import SearchQuery.Proofs.Pattern.Enclosed
import SearchQuery.Proofs.Pattern.Matching

/-!
# Terms that a pattern matches

A pattern is compared with whole terms by putting it into a group between conditions on the ends of
the term.  Main statement: if the pattern keeps to that group, the query is valid exactly if the
pattern is one, and keeps the terms that the pattern matches from end to end.
-/

set_option autoImplicit false
namespace SearchQuery

namespace Regex
open Pattern (Anchor Expr IsSelfContained enclose)

def whole (r : Regex) : Regex :=
  .sequence [.place (Anchor.startLine.holds {}), r, .place (Anchor.endLine.holds {})]

theorem whole_isMatch (r : Regex) (text : String) :
    r.whole.isMatch text = true ↔ r.MatchesWhole text :=
  isMatch_between (fun _ _ => Option.isNone_iff_eq_none) (fun _ _ => Option.isNone_iff_eq_none) r
    text

theorem enclosed_regex (e : Expr) :
    e.enclosed.regex {} = (e.regex {}).map fun p => (p.1.whole, {}) := by
  have mode : Pattern.Mode.switch {} [] = {} := rfl
  cases value : e.regex {} with
  | error f =>
    simp only [Expr.enclosed, Expr.regex, Pattern.regexes, bind, Except.bind, mode, value]
    rfl
  | ok q =>
    simp only [Expr.enclosed, Expr.regex, Pattern.regexes, bind, Except.bind, mode, value]
    rfl

theorem ofPattern_eq (p : String) : ofPattern p =
    Pattern.Expr.read p.toList >>= fun e => e.regex {} >>= fun q => .ok q.1 := rfl

theorem ofWhole_eq (p : String) : ofWhole p =
    Pattern.Expr.read (enclose p.toList) >>= fun e => e.regex {} >>= fun q => .ok q.1 := by
  have text : ("^(?:" ++ p ++ ")$").toList = enclose p.toList := by
    rw [String.toList_append, String.toList_append]
    simp [enclose]
  rw [ofWhole, ofPattern_eq, text]

theorem ofWhole_eq_ok {p : String} (h : IsSelfContained p.toList) {r : Regex} :
    ofWhole p = .ok r ↔ ∃ s, ofPattern p = .ok s ∧ r = s.whole := by
  rw [ofWhole_eq, ofPattern_eq]
  cases read : Expr.read p.toList with
  | error f =>
    have refused : ∀ e, Expr.read p.toList ≠ .ok e := by
      intro e h
      cases read.symm.trans h
    refine iff_of_false ?_ ?_
    · intro whole
      obtain ⟨e, enclosed, -⟩ := bind_eq_ok.1 whole
      exact Pattern.enclose_refused h refused e enclosed
    · rintro ⟨s, h, -⟩
      cases h
  | ok e =>
    rw [Pattern.read_enclose_of_read h read]
    change (e.enclosed.regex {} >>= fun q => Except.ok q.1) = .ok r ↔
      ∃ s, (e.regex {} >>= fun q => Except.ok q.1) = .ok s ∧ r = s.whole
    rw [enclosed_regex]
    cases e.regex {} with
    | error f =>
      refine iff_of_false ?_ ?_
      · intro h
        cases h
      · rintro ⟨s, h, -⟩
        cases h
    | ok q =>
      constructor
      · intro h
        cases h
        exact ⟨q.1, rfl, rfl⟩
      · rintro ⟨s, h, rfl⟩
        cases h
        rfl

theorem ofWhole_hidden {p : String} (h : ¬IsSelfContained p.toList) {s : Regex}
    (accepted : ofPattern p = .ok s) (r : Regex) : ofWhole p ≠ .ok r := by
  rw [ofPattern_eq] at accepted
  rw [ofWhole_eq]
  intro whole
  obtain ⟨e, read, -⟩ := bind_eq_ok.1 accepted
  obtain ⟨e', enclosed, -⟩ := bind_eq_ok.1 whole
  exact Pattern.enclose_hidden h read e' enclosed

end Regex

namespace Query
open Pattern (Expr IsSelfContained)

theorem validate_regexp (p field : String) (boost : Option Float) :
    (onField (.regexp p) field boost).validate = .ok () ↔ ∃ r, Regex.ofWhole p = .ok r := by
  change (((Regex.ofWhole p).mapError _).map fun _ => ()).mapError _ = _ ↔ _
  cases Regex.ofWhole p with
  | error f =>
    refine iff_of_false ?_ ?_
    · intro h
      cases h
    · rintro ⟨r, h⟩
      cases h
  | ok r => exact iff_of_true rfl ⟨r, rfl⟩

/-- A pattern that can be compared is valid in a query exactly if the group cannot be escaped. -/
theorem validate_regexp_iff {p : String} {s : Regex} (accepted : Regex.ofPattern p = .ok s)
    (field : String) (boost : Option Float) :
    (onField (.regexp p) field boost).validate = .ok () ↔ IsSelfContained p.toList := by
  rw [validate_regexp]
  constructor
  · rintro ⟨r, whole⟩
    by_cases h : IsSelfContained p.toList
    · exact h
    · exact absurd whole (Regex.ofWhole_hidden h accepted r)
  · intro h
    exact ⟨s.whole, (Regex.ofWhole_eq_ok h).2 ⟨s, accepted, rfl⟩⟩

theorem compile_regexp {p : String} {r : Regex} (h : Regex.ofWhole p = .ok r) (t : Target)
    (field : String) (boost : Option Float) :
    (onField (.regexp p) field boost).compile {} t = .ok (.anyTerm (t.resolve field)
      ((t.terms (t.resolve field)).filter r.isMatch) boost t.options) := by
  change (valid (patternOf p) >>= fun r => Except.ok (Plan.anyTerm (t.resolve field)
      ((t.terms (t.resolve field)).filter r.isMatch) boost t.options)) = _
  rw [patternOf, h]
  rfl

/-- A self-contained pattern is valid if it is a pattern at all, and the plan of its query holds the
terms of the dictionary that it matches from end to end. -/
theorem regexp_matches_whole {p : String} (h : IsSelfContained p.toList) (field : String)
    (boost : Option Float) :
    ((onField (.regexp p) field boost).validate = .ok () ↔ ∃ r, Regex.ofPattern p = .ok r) ∧
      ∀ r, Regex.ofPattern p = .ok r → ∀ t : Target, ∃ accepts : String → Bool,
        (∀ term, accepts term = true ↔ r.MatchesWhole term) ∧
          (onField (.regexp p) field boost).compile {} t = .ok (.anyTerm (t.resolve field)
            ((t.terms (t.resolve field)).filter accepts) boost t.options) := by
  constructor
  · rw [validate_regexp]
    constructor
    · rintro ⟨r, whole⟩
      obtain ⟨s, accepted, -⟩ := (Regex.ofWhole_eq_ok h).1 whole
      exact ⟨s, accepted⟩
    · rintro ⟨s, accepted⟩
      exact ⟨s.whole, (Regex.ofWhole_eq_ok h).2 ⟨s, accepted, rfl⟩⟩
  · intro r accepted t
    have whole : Regex.ofWhole p = .ok r.whole := (Regex.ofWhole_eq_ok h).2 ⟨r, accepted, rfl⟩
    exact ⟨r.whole.isMatch, Regex.whole_isMatch r, compile_regexp whole t field boost⟩

section Examples

/-- Two branches, of which one is a group with a flag. -/
theorem regexp_matches_whole_branches :
    let p := String.ofList ['(', '?', 'i', ')', 'a', '|', 'b']
    let r : Regex := .choice
      [.sequence [.sequence [], .one (Pattern.literalClass { ignoreCase := true } 'a')],
        .sequence [.one (Pattern.literalClass { ignoreCase := true } 'b')]]
    IsSelfContained p.toList ∧ (onField (.regexp p) "" none).validate = .ok () ∧
      ∀ t : Target, ∃ accepts : String → Bool,
        (∀ term, accepts term = true ↔ r.MatchesWhole term) ∧
          (onField (.regexp p) "" none).compile {} t = .ok (.anyTerm (t.resolve "")
            ((t.terms (t.resolve "")).filter accepts) none t.options) := by
  intro p r
  have read : Expr.read p.toList = .ok (.alternatives
      [.sequence [.flags [(.ignoreCase, true)], .literal ⟨'a', false⟩],
        .sequence [.literal ⟨'b', false⟩]]) := by
    rw [String.toList_ofList]
    rfl
  have behind : Expr.read (p.toList ++ [')']) = .error .groupUnopened := by
    rw [String.toList_ofList]
    rfl
  have contained : IsSelfContained p.toList := by
    rw [IsSelfContained, read]
    exact behind
  have accepted : Regex.ofPattern p = .ok r := by
    rw [Regex.ofPattern_eq, read]
    rfl
  have matches_whole := regexp_matches_whole contained "" none
  exact ⟨contained, matches_whole.1.2 ⟨r, accepted⟩, matches_whole.2 r accepted⟩

/-- A comment at the end of a pattern hides the end of the group as well.  A pattern that closes the
group itself is no pattern alone, and the second branch of what comes of it matches parts of
terms. -/
theorem regexp_escapes_group :
    let comment := String.ofList ['(', '?', 'x', ')', 'a', '#', 'b']
    let branches := String.ofList ['a', ')', '|', '(', '?', ':', 'b']
    ((∃ r, Regex.ofPattern comment = .ok r) ∧
        (onField (.regexp comment) "" none).validate ≠ .ok ()) ∧
      (¬∃ r, Regex.ofPattern branches = .ok r) ∧
        (onField (.regexp branches) "" none).validate = .ok () := by
  intro comment branches
  have read : Expr.read comment.toList =
      .ok (.sequence [.flags [(.verbose, true)], .literal ⟨'a', false⟩]) := by
    rw [String.toList_ofList]
    rfl
  have accepted : Regex.ofPattern comment = .ok
      (.sequence [.sequence [], .one (Pattern.literalClass {} 'a')]) := by
    rw [Regex.ofPattern_eq, read]
    rfl
  have hidden : Regex.ofWhole comment = .error .groupUnclosed := by
    rw [Regex.ofWhole_eq, String.toList_ofList]
    rfl
  have refused : Regex.ofPattern branches = .error .groupUnopened := by
    rw [Regex.ofPattern_eq, String.toList_ofList]
    rfl
  have whole : Regex.ofWhole branches = .ok (.choice
      [.sequence [.place (Pattern.Anchor.startLine.holds {}),
          .sequence [.one (Pattern.literalClass {} 'a')]],
        .sequence [.sequence [.one (Pattern.literalClass {} 'b')],
          .place (Pattern.Anchor.endLine.holds {})]]) := by
    rw [Regex.ofWhole_eq, String.toList_ofList]
    rfl
  refine ⟨⟨⟨_, accepted⟩, ?_⟩, ?_, ?_⟩
  · rw [Ne, validate_regexp]
    rintro ⟨r, h⟩
    cases hidden.symm.trans h
  · rintro ⟨r, h⟩
    cases refused.symm.trans h
  · exact (validate_regexp branches "" none).2 ⟨_, whole⟩

end Examples

end Query

end SearchQuery
