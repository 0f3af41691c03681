import SearchQuery.Index
import SearchQuery.Proofs.Plan.Nodes
import SearchQuery.Proofs.Text.Bytes

/-!
# Lists of terms in plans

Wherever a plan holds a list of terms or of identifiers, the list ascends strictly in the order of
its bytes, whether it comes from the user, from an analyzer or from the dictionary; and a set of
terms is one of terms of the dictionary.
-/

set_option autoImplicit false
namespace SearchQuery

/-- The texts ascend strictly in the order of their bytes. -/
def IsAscending (texts : List String) : Prop := texts.Pairwise fun s t => bytesOf s < bytesOf t

theorem isAscending_iff {texts : List String} : IsAscending texts ↔ texts.Pairwise (· < ·) := by
  simp only [IsAscending, lt_iff_bytesOf_lt]

theorem Index.terms_ascending (index : Index) (field : String) :
    (index.terms field).Pairwise (· < ·) := by
  unfold Index.terms
  split
  · rename_i set _
    exact set.ascending
  · exact .nil

/-- The lists of the condition ascend, and a set of terms has its terms from the dictionary. -/
def Condition.IsCanonical (index : Index) : Condition → Prop
  | .documents ids => IsAscending ids
  | .phrase _ slots => ∀ slot ∈ slots, IsAscending slot
  | .anyTerm field terms => IsAscending terms ∧ ∀ term ∈ terms, term ∈ index.terms field
  | _ => True

theorem Condition.IsDrawn.isCanonical {index : Index} {c : Condition}
    (h : c.IsDrawn index.terms) : c.IsCanonical index := by
  cases c with
  | anyTerm field terms =>
    have chosen : terms.Sublist (index.terms field) := h
    exact ⟨isAscending_iff.2 ((index.terms_ascending field).sublist chosen),
      fun _ mem => chosen.subset mem⟩
  | phrase field slots => exact fun slot mem => isAscending_iff.2 (h slot mem)
  | documents ids => exact isAscending_iff.2 h
  | _ => trivial

namespace Query

/-- Every condition in the plan of a query for an index has its lists in order. -/
theorem compile_canonical {context : Context} {index : Index} {mapping : Mapping}
    {options : Options} {q : Query} {p : Plan}
    (h : q.compile context ⟨index.terms, mapping, options⟩ = .ok p) :
    ∀ c boost o, p.HasNode (.leaf c boost o) → c.IsCanonical index := by
  intro c boost o node
  exact Condition.IsDrawn.isCanonical ((compile_isBuilt h _ node).drawn c rfl)

/-- Two alternatives of a phrase are near to some of the same terms. -/
theorem compile_canonical_alternatives :
    let index := Index.empty.addTerms "body" ["rust", "bust", "trust"]
    let phrase : Query := .onField (.multiPhrase [["rust", "dust"], []] (some (.edits 1))) "body"
      none
    let q : Query := .boolean none (some phrase) (some (.documents ["b", "a", "b"] none)) none
    let slots : Condition := .phrase "body" [["bust", "rust", "trust"], []]
    let found : Plan := .leaf slots defaultBoost {}
    let p : Plan := .boolean none (some found) (some (.leaf (.documents ["a", "b"]) defaultBoost {}))
      defaultBoost {}
    q.compile {} ⟨index.terms, Schema.initial.mapping, {}⟩ = .ok p ∧ p.HasNode found ∧
      slots.IsCanonical index := by
  intro index phrase q slots found p
  have compiled : q.compile {} ⟨index.terms, Schema.initial.mapping, {}⟩ = .ok p := by
    with_unfolding_all rfl
  have node : p.HasNode found := .inside (by simp [p, Plan.children]) (.root found)
  exact ⟨compiled, node, compile_canonical compiled slots defaultBoost {} node⟩

end Query

end SearchQuery
