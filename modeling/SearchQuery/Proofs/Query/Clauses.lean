import SearchQuery.Proofs.Outcome
import SearchQuery.Proofs.Query.Everywhere
import SearchQuery.Query.Grammar

/-!
# What a query string denotes

Every clause of the grammar is one condition on one field (`IsClause`), so the query of a text is
either empty or a boolean query of conditions, and holds no query strings of its own.
-/

set_option autoImplicit false
namespace SearchQuery

namespace Grammar

/-- The queries of single clauses: words, phrases, patterns, and ranges open at one end. -/
inductive IsClause : Query → Prop
  | words (text : String) (fuzziness : Option Fuzziness) (field : String) (boost : Option Float) :
    IsClause (.onField (.text text none none fuzziness none) field boost)
  | phrase (text field : String) (boost : Option Float) :
    IsClause (.onField (.textPhrase text none none) field boost)
  | pattern (text field : String) (boost : Option Float) :
    IsClause (.onField (.regexp text) field boost)
  | numbers (lower inclusive : Bool) (x : Float) (field : String) (boost : Option Float) :
    IsClause (.onField (.numericRange (halfRange lower inclusive x)) field boost)
  | dates (lower inclusive : Bool) (date field : String) (boost : Option Float) :
    IsClause (.onField (.dateRange (halfRange lower inclusive date) none) field boost)

theorem IsClause.setBoost {q : Query} (h : IsClause q) (b : Float) : IsClause (q.setBoost b) := by
  cases h with
  | words => exact .words ..
  | phrase => exact .phrase ..
  | pattern => exact .pattern ..
  | numbers => exact .numbers ..
  | dates => exact .dates ..

theorem parseText_isClause {field : String} {word : List Char} {c k : Cursor} {q : Query}
    (h : parseText field word c = .ok (q, k)) : IsClause q := by
  unfold parseText at h
  split at h
  · obtain ⟨f, -, rfl⟩ := Parsed.map_eq_ok.1 h
    exact .words ..
  · cases h
    exact .words ..

theorem parseOperand_isClause {field : String} {lower inclusive : Bool} {c k : Cursor} {q : Query}
    (h : parseOperand field lower inclusive c = .ok (q, k)) : IsClause q := by
  unfold parseOperand at h
  split at h
  · obtain ⟨date, -, rfl⟩ := Parsed.map_eq_ok.1 h
    exact .dates ..
  · simp only at h
    split at h
    · cases h
      exact .numbers ..
    · cases h

section Readers
variable {p : Query → Prop}
  (text : ∀ {field word c k q}, parseText field word c = .ok (q, k) → p q)
  (operand : ∀ {field lower inclusive c k q},
    parseOperand field lower inclusive c = .ok (q, k) → p q)
  (phrase : ∀ text field, p (.onField (.textPhrase text none none) field none))
  (pattern : ∀ text field, p (.onField (.regexp text) field none))

include operand in
theorem parseComparison_forall {field : String} {lower : Bool} {c k : Cursor} {q : Query}
    (h : parseComparison field lower c = .ok (q, k)) : p q := by
  unfold parseComparison at h
  split at h
  · exact operand h
  · exact operand h

include text operand phrase pattern

theorem parseValue_forall {field : String} {c k : Cursor} {q : Query}
    (h : parseValue field c = .ok (q, k)) : p q := by
  unfold parseValue at h
  split at h
  · cases h
  · obtain ⟨t, -, rfl⟩ := Parsed.map_eq_ok.1 h
    exact phrase t field
  · obtain ⟨t, -, rfl⟩ := Parsed.map_eq_ok.1 h
    exact pattern t field
  · exact parseComparison_forall operand h
  · exact parseComparison_forall operand h
  · simp only at h
    split at h
    · cases h
    · exact text h

theorem parseAtom_forall {c k : Cursor} {q : Query} (h : parseAtom c = .ok (q, k)) : p q := by
  unfold parseAtom at h
  split at h
  · obtain ⟨t, -, rfl⟩ := Parsed.map_eq_ok.1 h
    exact phrase t ""
  · obtain ⟨t, -, rfl⟩ := Parsed.map_eq_ok.1 h
    exact pattern t ""
  · simp only at h
    split at h
    · split at h
      · cases h
      · exact parseValue_forall text operand phrase pattern h
    · split at h
      · cases h
      · exact text h

variable (boosted : ∀ {q} b, b.isFinite = true → p q → p (q.setBoost b))
include boosted

theorem parseBody_forall {c k : Cursor} {q : Query} (h : parseBody c = .ok (q, k)) : p q := by
  unfold parseBody at h
  split at h
  · rename_i atom j parsed
    have plain := parseAtom_forall text operand phrase pattern parsed
    unfold parseBoost at h
    split at h
    · simp only at h
      split at h
      · split at h
        · rename_i checked
          cases h
          exact boosted _ (Bool.and_eq_true_iff.1 checked).1 plain
        · cases h
      · cases h
    · cases h
      exact plain
  · cases h

theorem parseClause_forall {c k : Cursor} {clause : Occur × Query}
    (h : parseClause c = .ok (clause, k)) : p clause.2 := by
  have signed {sign : String} {offset : Nat} {j : Cursor} {q : Query}
      (hq : parseSigned sign offset j = .ok (q, k)) : p q := by
    unfold parseSigned at hq
    split at hq
    · cases hq
    · split at hq
      · cases hq
      · exact parseBody_forall text operand phrase pattern boosted hq
  unfold parseClause at h
  split at h
  · obtain ⟨q, hq, rfl⟩ := Parsed.map_eq_ok.1 h
    exact signed hq
  · obtain ⟨q, hq, rfl⟩ := Parsed.map_eq_ok.1 h
    exact signed hq
  · obtain ⟨q, hq, rfl⟩ := Parsed.map_eq_ok.1 h
    exact parseBody_forall text operand phrase pattern boosted hq

end Readers

theorem parseClause_isClause {c k : Cursor} {clause : Occur × Query}
    (h : parseClause c = .ok (clause, k)) : IsClause clause.2 :=
  parseClause_forall parseText_isClause parseOperand_isClause (fun _ _ => .phrase ..)
    (fun _ _ => .pattern ..) (fun b _ clause => clause.setBoost b) h

theorem parseClauses_nil {c : Cursor} (h : c.skipBlank.rest = []) : parseClauses c = .ok [] := by
  rw [parseClauses, if_pos (by rw [h]; rfl)]

theorem parseClauses_cons {c k : Cursor} {clause : Occur × Query}
    (h : parseClause c.skipBlank = .ok (clause, k)) :
    parseClauses c = (parseClauses k).map (clause :: ·) := by
  have more : c.skipBlank.rest.isEmpty = false := by
    have taken := parseClause_length h
    cases rest : c.skipBlank.rest with
    | nil =>
      rw [rest] at taken
      exact absurd taken (Nat.not_lt_zero _)
    | cons d r => rfl
  rw [parseClauses]
  simp only [more, Bool.false_eq_true, if_false]
  split
  · rename_i hf
    rw [h] at hf
    cases hf
  · rename_i hk
    rw [h] at hk
    cases hk
    rfl

theorem parseClauses_forall {p : Occur × Query → Prop}
    (step : ∀ {c k clause}, parseClause c = .ok (clause, k) → p clause) {c : Cursor}
    {clauses : List (Occur × Query)} (h : parseClauses c = .ok clauses) :
    ∀ clause ∈ clauses, p clause := by
  fun_induction parseClauses c generalizing clauses with
  | case1 =>
    cases h
    simp
  | case2 => cases h
  | case3 =>
    rename_i first k hk ih
    obtain ⟨rest, hrest, rfl⟩ := map_eq_ok.1 h
    exact List.forall_mem_cons.2 ⟨step hk, ih hrest⟩

theorem parseQueryString_eq_ok {text : String} {q : Query} :
    parseQueryString text = .ok q ↔
      ∃ clauses, parseClauses ⟨0, text.toList⟩ = .ok clauses ∧ assemble clauses = q := by
  unfold parseQueryString
  split
  · rename_i clauses h
    simp [h]
  · rename_i fault h
    simp [h]

theorem mem_clausesOf {occur : Occur} {clauses : List (Occur × Query)} {q : Query} :
    q ∈ clausesOf occur clauses ↔ (occur, q) ∈ clauses := by
  simp [clausesOf]

theorem group_eq_none {make : List Query → Query} {clauses : List Query} :
    group make clauses = none ↔ clauses = [] := by
  cases clauses <;> simp [group]

theorem exists_slot {clauses : List (Occur × Query)} (h : clauses ≠ []) :
    ¬ (clausesOf .must clauses = [] ∧ clausesOf .should clauses = [] ∧
      clausesOf .mustNot clauses = []) := by
  rintro ⟨hm, hs, hn⟩
  obtain ⟨⟨occur, q⟩, hq⟩ := List.exists_mem_of_ne_nil clauses h
  have hmem := mem_clausesOf.2 hq
  cases occur with
  | must => simp [hm] at hmem
  | should => simp [hs] at hmem
  | mustNot => simp [hn] at hmem

theorem assemble_cases (clauses : List (Occur × Query)) :
    assemble clauses = .nothing none ∨
      ∃ must should mustNot, assemble clauses = .boolean must should mustNot none ∧
        ¬ (must = none ∧ should = none ∧ mustNot = none) := by
  unfold assemble
  split
  · exact .inl rfl
  · rename_i h
    refine .inr ⟨_, _, _, rfl, ?_⟩
    rw [group_eq_none, group_eq_none, group_eq_none]
    exact exists_slot (by simpa using h)

theorem IsClause.everywhere {p : Query → Prop} {q : Query} (h : IsClause q) (hp : p q) :
    q.Everywhere p := by
  cases h <;> exact hp

theorem everywhereSlot_group {p : Query → Prop} {make : List Query → Query} {qs : List Query}
    (h : qs ≠ [] → (make qs).Everywhere p) : Query.EverywhereSlot p (group make qs) := by
  cases qs with
  | nil => trivial
  | cons q rest => exact h (List.cons_ne_nil q rest)

section Nodes
variable {p : Query → Prop} (clause : ∀ {q}, IsClause q → p q) (nothing : p (.nothing none))
  (conjunction : ∀ cs, p (.conjunction cs none))
  (disjunction : ∀ ds min, ds ≠ [] → (∀ least ∈ min, least = 1) → p (.disjunction ds min none))
  (boolean : ∀ must should mustNot, ¬ (must = none ∧ should = none ∧ mustNot = none) →
    p (.boolean must should mustNot none))
include nothing conjunction disjunction boolean

/-- A property of nodes holds throughout the query of a list of clauses if it holds throughout the
clauses, of groups of them, and of both forms of the root. -/
theorem assemble_everywhere {clauses : List (Occur × Query)}
    (h : ∀ c ∈ clauses, c.2.Everywhere p) : (assemble clauses).Everywhere p := by
  have members (occur : Occur) : Query.EverywhereIn p (clausesOf occur clauses) := by
    rw [Query.everywhereIn_iff]
    intro q hq
    exact h _ (mem_clausesOf.1 hq)
  unfold assemble
  split
  · exact nothing
  · rename_i hne
    refine ⟨boolean _ _ _ ?_, everywhereSlot_group ?_, everywhereSlot_group ?_,
      everywhereSlot_group ?_⟩
    · rw [group_eq_none, group_eq_none, group_eq_none]
      exact exists_slot (by simpa using hne)
    · intro _
      exact ⟨conjunction _, members _⟩
    · intro some
      refine ⟨disjunction _ _ some ?_, members _⟩
      intro least asked
      split at asked
      · cases asked
        rfl
      · cases asked
    · intro some
      refine ⟨disjunction _ _ some ?_, members _⟩
      rintro least ⟨⟩

include clause in
theorem parse_everywhere {text : String} {q : Query}
    (h : parseQueryString text = .ok q) : q.Everywhere p := by
  obtain ⟨clauses, hc, rfl⟩ := parseQueryString_eq_ok.1 h
  refine assemble_everywhere nothing conjunction disjunction boolean fun c hmem => ?_
  have hclause := parseClauses_forall parseClause_isClause hc c hmem
  exact hclause.everywhere (clause hclause)

end Nodes

end Grammar

end SearchQuery
