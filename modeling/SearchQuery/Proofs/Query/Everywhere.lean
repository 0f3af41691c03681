import SearchQuery.Query.Basic

/-!
# Properties of all nodes

`Query.Everywhere p` holds of a tree if `p` holds of each of its nodes.  The text of a query string
is part of its node and is not looked into.
-/

set_option autoImplicit false
namespace SearchQuery.Query

section Everywhere
variable (p : Query → Prop)

mutual

/-- `p` holds of every node of the tree. -/
def Everywhere : Query → Prop
  | .onField c field boost => p (.onField c field boost)
  | .documents ids boost => p (.documents ids boost)
  | .everything boost => p (.everything boost)
  | .nothing boost => p (.nothing boost)
  | .queryString text boost => p (.queryString text boost)
  | .conjunction cs boost => p (.conjunction cs boost) ∧ EverywhereIn cs
  | .disjunction ds min boost => p (.disjunction ds min boost) ∧ EverywhereIn ds
  | .boolean must should mustNot boost =>
    p (.boolean must should mustNot boost) ∧
      EverywhereSlot must ∧ EverywhereSlot should ∧ EverywhereSlot mustNot

def EverywhereIn : List Query → Prop
  | [] => True
  | q :: rest => Everywhere q ∧ EverywhereIn rest

def EverywhereSlot : Option Query → Prop
  | none => True
  | some q => Everywhere q

end

end Everywhere

variable {p : Query → Prop}

theorem everywhereIn_iff {qs : List Query} :
    EverywhereIn p qs ↔ ∀ q ∈ qs, Everywhere p q := by
  induction qs with
  | nil => simp [EverywhereIn]
  | cons q rest ih => simp [EverywhereIn, ih]

section Combination
variable {r s : Query → Prop}

mutual

theorem everywhere_combine (h : ∀ q, p q → r q → s q) :
    ∀ q, Everywhere p q → Everywhere r q → Everywhere s q
  | .onField .., hp, hr => h _ hp hr
  | .documents .., hp, hr => h _ hp hr
  | .everything .., hp, hr => h _ hp hr
  | .nothing .., hp, hr => h _ hp hr
  | .queryString .., hp, hr => h _ hp hr
  | .conjunction cs _, hp, hr => ⟨h _ hp.1 hr.1, everywhereIn_combine h cs hp.2 hr.2⟩
  | .disjunction ds _ _, hp, hr => ⟨h _ hp.1 hr.1, everywhereIn_combine h ds hp.2 hr.2⟩
  | .boolean must should mustNot _, ⟨hp, p1, p2, p3⟩, ⟨hr, r1, r2, r3⟩ =>
    ⟨h _ hp hr, everywhereSlot_combine h must p1 r1, everywhereSlot_combine h should p2 r2,
      everywhereSlot_combine h mustNot p3 r3⟩

theorem everywhereIn_combine (h : ∀ q, p q → r q → s q) :
    ∀ qs, EverywhereIn p qs → EverywhereIn r qs → EverywhereIn s qs
  | [], _, _ => trivial
  | q :: rest, hp, hr =>
    ⟨everywhere_combine h q hp.1 hr.1, everywhereIn_combine h rest hp.2 hr.2⟩

theorem everywhereSlot_combine (h : ∀ q, p q → r q → s q) :
    ∀ slot, EverywhereSlot p slot → EverywhereSlot r slot → EverywhereSlot s slot
  | none, _, _ => trivial
  | some q, hp, hr => everywhere_combine h q hp hr

end

end Combination

end SearchQuery.Query
