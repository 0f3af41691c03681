import SearchQuery.Proofs.Pattern.Glob
import SearchQuery.Proofs.Plan.Patterns

/-!
# Terms that a wildcard pattern matches

A wildcard pattern that is not empty is valid, and keeps the terms that it matches as a glob whose
wildcards stand for any character but a line feed.  In terms without line feeds they stand for any.
-/

set_option autoImplicit false
namespace SearchQuery
open Wildcard (Mark Takes marks takes_mono)

def Wildcard.whole (w : String) : Regex :=
  (Regex.sequence ((marks w.toList).map Mark.regex)).whole

theorem Wildcard.regex_eq (w : String) : Wildcard.regex w = .ok (Wildcard.whole w) := by
  have contained : Pattern.IsSelfContained (String.ofList (toPattern w.toList)).toList := by
    rw [String.toList_ofList]
    exact isSelfContained_toPattern w.toList
  exact (Regex.ofWhole_eq_ok contained).2 ⟨_, ofPattern_toPattern w.toList, rfl⟩

theorem Wildcard.whole_isMatch (w term : String) :
    (Wildcard.whole w).isMatch term = true ↔ Takes (· ≠ '\n') (marks w.toList) term.toList :=
  (Regex.whole_isMatch _ term).trans (matchesWhole_marks (marks w.toList) term)

theorem wildcardOf_eq {w : String} (h : w ≠ "") : wildcardOf w = .ok (Wildcard.whole w) := by
  have filled : w.isEmpty = false := by
    simpa using h
  rw [wildcardOf, filled, Wildcard.regex_eq]
  rfl

namespace Query

theorem compile_wildcard {w : String} (h : w ≠ "") (t : Target) (field : String)
    (boost : Option Float) :
    (onField (.wildcard w) field boost).compile {} t = .ok (.anyTerm (t.resolve field)
      ((t.terms (t.resolve field)).filter (Wildcard.whole w).isMatch) boost t.options) := by
  change (valid (wildcardOf w) >>= fun r => Except.ok (Plan.anyTerm (t.resolve field)
    ((t.terms (t.resolve field)).filter r.isMatch) boost t.options)) = _
  rw [wildcardOf_eq h]
  rfl

/-- Terms without line feeds are compared with the pattern as with a glob. -/
theorem wildcard_matches_glob {w : String} (h : w ≠ "") (field : String) (boost : Option Float) :
    (onField (.wildcard w) field boost).validate = .ok () ∧
      ∀ t : Target, ∃ accepts : String → Bool,
        (∀ term, accepts term = true ↔ Takes (· ≠ '\n') (marks w.toList) term.toList) ∧
        (∀ term, '\n' ∉ term.toList →
          (accepts term = true ↔ Takes (fun _ => True) (marks w.toList) term.toList)) ∧
        (onField (.wildcard w) field boost).compile {} t = .ok (.anyTerm (t.resolve field)
          ((t.terms (t.resolve field)).filter accepts) boost t.options) := by
  constructor
  · change ((wildcardOf w).map fun _ => ()).mapError At.here = _
    rw [wildcardOf_eq h]
    rfl
  · intro t
    refine ⟨(Wildcard.whole w).isMatch, Wildcard.whole_isMatch w, ?_, compile_wildcard h t field
      boost⟩
    intro term oneLine
    rw [Wildcard.whole_isMatch]
    constructor
    · exact takes_mono fun _ _ _ => trivial
    · apply takes_mono
      rintro c mem - rfl
      exact oneLine mem

theorem wildcard_matches_glob_escaped :
    let w := String.ofList ['a', '?', '\\', '*', '*', '\\']
    let q := onField (.wildcard w) "" none
    w ≠ "" ∧ q.validate = .ok () ∧
      ∀ t : Target, ∃ accepts : String → Bool,
        (∀ term, accepts term = true ↔ Takes (· ≠ '\n') (marks w.toList) term.toList) ∧
        (∀ term, '\n' ∉ term.toList →
          (accepts term = true ↔ Takes (fun _ => True) (marks w.toList) term.toList)) ∧
        q.compile {} t = .ok (.anyTerm (t.resolve "") ((t.terms (t.resolve "")).filter accepts)
          none t.options) := by
  intro w q
  have filled : w ≠ "" := by decide
  exact ⟨filled, wildcard_matches_glob filled "" none⟩

/-- An asterisk stands for no line feed, so that the only term of a dictionary is not found. -/
theorem wildcard_misses_line_feed :
    let w := String.ofList ['a', '*', 'b']
    let term := String.ofList ['a', '\n', 'b']
    let t : Target := ⟨fun _ => [term], Schema.initial.mapping, {}⟩
    Takes (fun _ => True) (marks w.toList) term.toList ∧
      (onField (.wildcard w) "" none).compile {} t = .ok (.nothing {}) := by
  intro w term t
  have chars : marks w.toList = [.literal 'a', .run, .literal 'b'] := by
    rw [String.toList_ofList]
    rfl
  have found : term.toList = ['a', '\n', 'b'] := String.toList_ofList
  constructor
  · rw [chars, found]
    exact ⟨_, rfl, ['\n'], _, rfl, fun _ _ => trivial, _, rfl, rfl⟩
  · have missed : (Wildcard.whole w).isMatch term = false := by
      rw [← Bool.not_eq_true, Wildcard.whole_isMatch, chars, found]
      rintro ⟨behind, ⟨⟩, part, behind, parts, oneLine, last, rfl, rfl⟩
      cases part with
      | nil => cases parts
      | cons c part =>
        injection parts with first
        exact oneLine c List.mem_cons_self first.symm
    have filled : w ≠ "" := by decide
    rw [compile_wildcard filled]
    change Except.ok (Plan.anyTerm _ ([term].filter _) none {}) = _
    rw [List.filter_cons_of_neg (by simp [missed])]
    rfl

end Query

end SearchQuery
