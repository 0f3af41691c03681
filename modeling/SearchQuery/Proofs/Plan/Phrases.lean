import SearchQuery.Plan.Lowering
import SearchQuery.Proofs.Outcome

/-!
# Slots of phrases

A phrase holds terms at its positions, and some of its positions may hold none.  The plan has a slot
for every position, with the dictionary terms that may stand for what is held.  A slot without terms
is met by any term; so it stands for a position that holds none, but also for one whose terms are
far from every term of the dictionary (`Query.phrase_slots`).
-/

set_option autoImplicit false
namespace SearchQuery

def placeIn (tokens : List Token) (token : Token) : Nat :=
  (token.position : Nat) - (tokens.head?.map (·.position)).getD 0

/-- A phrase holds a term at a position. -/
def Criterion.Holds (t : Target) (field : String) (i : Nat) (word : String) : Criterion → Prop
  | .textPhrase words analyzer _ => ∃ analyze, t.analyzer analyzer field = .ok analyze ∧
    ∃ token ∈ analyze words, placeIn (analyze words) token = i ∧ token.term = word
  | .phrase terms _ => terms[i]? = some word
  | .multiPhrase terms _ => ∃ alternatives, terms[i]? = some alternatives ∧ word ∈ alternatives
  | _ => False

def Criterion.phraseFuzziness : Criterion → Fuzziness
  | .textPhrase _ _ fuzziness => fuzzinessOfText fuzziness
  | .phrase _ fuzziness => fuzzinessOfText fuzziness
  | .multiPhrase _ fuzziness => fuzzinessOfText fuzziness
  | _ => .exact

/-- A term stands for itself, or some term of the dictionary is near enough to stand for it. -/
def Target.HasMatch (t : Target) (field : String) (fuzziness : Fuzziness) (word : String) : Prop :=
  fuzziness.editsFor word = 0 ∨
    ∃ candidate ∈ t.terms field, editDistance word candidate ≤ fuzziness.editsFor word

section Slot
variable {t : Target} {field : String} {fuzziness : Fuzziness}

theorem mem_similarTerms {word candidate : String} {edits : Nat} :
    candidate ∈ t.similarTerms field word edits 0 ↔
      candidate ∈ t.terms field ∧ editDistance word candidate ≤ edits := by
  simp [Target.similarTerms, Target.sharesPrefix]

theorem slotTerms_eq_nil {word : String} :
    slotTerms t field fuzziness word = [] ↔ ¬ t.HasMatch field fuzziness word := by
  unfold slotTerms Target.HasMatch
  by_cases exact : fuzziness.editsFor word = 0
  · simp [exact]
  · simp only [exact, if_false, false_or, List.eq_nil_iff_forall_not_mem, mem_similarTerms]
    simp

theorem mem_slot {terms : List String} {candidate : String} :
    candidate ∈ slot t field fuzziness terms ↔
      ∃ word ∈ terms, candidate ∈ slotTerms t field fuzziness word := by
  rw [slot, TermSet.mem_ofList, List.mem_flatMap]

theorem slot_eq_nil {terms : List String} :
    slot t field fuzziness terms = [] ↔ ∀ word ∈ terms, ¬ t.HasMatch field fuzziness word := by
  simp only [← slotTerms_eq_nil, List.eq_nil_iff_forall_not_mem, mem_slot]
  constructor
  · intro h word hword candidate hmem
    exact h candidate ⟨word, hword, hmem⟩
  · rintro h candidate ⟨word, hword, hmem⟩
    exact h word hword candidate hmem

end Slot

theorem lt_count {place : Token → Nat} {tokens : List Token} (n : Nat) :
    n ≤ tokens.foldl (fun n token => max n (place token + 1)) n ∧
      ∀ token ∈ tokens, place token < tokens.foldl (fun n token => max n (place token + 1)) n := by
  induction tokens generalizing n with
  | nil => simp
  | cons first rest ih =>
    obtain ⟨start, covered⟩ := ih (max n (place first + 1))
    rw [List.foldl_cons]
    refine ⟨by omega, ?_⟩
    intro token hmem
    cases hmem with
    | head => omega
    | tail _ hrest => exact covered token hrest

theorem mem_positions {tokens : List Token} {i : Nat} {word : String} :
    (∃ held, (positions tokens)[i]? = some held ∧ word ∈ held) ↔
      ∃ token ∈ tokens, placeIn tokens token = i ∧ token.term = word := by
  let count := tokens.foldl (fun n token => max n (placeIn tokens token + 1)) 0
  have entry : (positions tokens)[i]? = (List.range count)[i]?.map fun i =>
      (tokens.filter fun token => placeIn tokens token == i).map (·.term) := List.getElem?_map ..
  rw [entry]
  constructor
  · rintro ⟨held, hheld, hword⟩
    obtain ⟨j, hj, rfl⟩ := Option.map_eq_some_iff.1 hheld
    obtain ⟨hlt, hij⟩ := List.getElem?_eq_some_iff.1 hj
    rw [List.getElem_range] at hij
    obtain ⟨token, htoken, hterm⟩ := List.mem_map.1 hword
    obtain ⟨hmem, hplace⟩ := List.mem_filter.1 htoken
    rw [← hij, beq_iff_eq] at hplace
    exact ⟨token, hmem, hplace, hterm⟩
  · rintro ⟨token, hmem, rfl, rfl⟩
    have covered : placeIn tokens token < count := (lt_count 0).2 token hmem
    rw [List.getElem?_range covered]
    refine ⟨_, rfl, List.mem_map.2 ⟨token, List.mem_filter.2 ⟨hmem, ?_⟩, rfl⟩⟩
    exact beq_self_eq_true _

section Plans
variable {t : Target} {field f : String} {boost : Option Float} {slots : List (List String)}
  {b : Float} {o : Options}

theorem anyTerm_ne_phrase {terms : List String} :
    Plan.anyTerm field terms boost t.options ≠ .leaf (.phrase f slots) b o := by
  unfold Plan.anyTerm
  split <;> simp [Plan.nothing, Plan.ofCondition]

theorem textPlan_ne_phrase {edits : Nat} {fuzziness : Fuzziness} {operator : Operator}
    {tokens : List Token} :
    textPlan t field edits fuzziness operator boost tokens ≠ .leaf (.phrase f slots) b o := by
  unfold textPlan termCondition
  cases tokens with
  | nil => simp [Plan.nothing, Plan.ofCondition]
  | cons token rest =>
    cases rest with
    | nil =>
      dsimp only
      split <;> simp [Plan.ofCondition]
    | cons _ _ => cases operator <;> simp

/-- The plan of a phrase has a slot for the terms held at each position, and no other plan has
slots. -/
theorem lower_eq_phrase {c : Criterion}
    (h : c.lower t field boost = .ok (.leaf (.phrase f slots) b o)) :
    f = field ∧ ∃ held : List (List String), slots = held.map (slot t field c.phraseFuzziness) ∧
      ∀ i word, c.Holds t field i word ↔ ∃ terms, held[i]? = some terms ∧ word ∈ terms := by
  cases c with
  | textPhrase words analyzer fuzziness =>
    obtain ⟨-, -, h⟩ := bind_eq_ok.1 h
    obtain ⟨analyze, hanalyze, h⟩ := bind_eq_ok.1 h
    dsimp only at h
    split at h
    · cases h
    · cases h
      refine ⟨rfl, positions (analyze words), rfl, ?_⟩
      intro i word
      rw [mem_positions]
      constructor
      · rintro ⟨analyze', hanalyze', held⟩
        rw [hanalyze] at hanalyze'
        cases hanalyze'
        exact held
      · intro held
        exact ⟨analyze, hanalyze, held⟩
  | phrase terms fuzziness =>
    obtain ⟨-, -, h⟩ := bind_eq_ok.1 h
    cases h
    refine ⟨rfl, terms.map fun word => [word], by rw [List.map_map]; rfl, ?_⟩
    intro i word
    rw [List.getElem?_map]
    cases hword : terms[i]? with
    | none => simp [Criterion.Holds, hword]
    | some held => simp [Criterion.Holds, hword, eq_comm]
  | multiPhrase terms fuzziness =>
    obtain ⟨-, -, h⟩ := bind_eq_ok.1 h
    cases h
    exact ⟨rfl, terms, rfl, fun i word => Iff.rfl⟩
  | text words analyzer prefixLength fuzziness operator =>
    obtain ⟨-, -, h⟩ := bind_eq_ok.1 h
    obtain ⟨analyze, -, h⟩ := bind_eq_ok.1 h
    exact absurd (pure_eq_ok.1 h) textPlan_ne_phrase
  | fuzzy word prefixLength fuzziness =>
    obtain ⟨-, -, h⟩ := bind_eq_ok.1 h
    dsimp only at h
    split at h
    · cases h
    · exact absurd (pure_eq_ok.1 h) anyTerm_ne_phrase
  | stem start => exact absurd (pure_eq_ok.1 h) anyTerm_ne_phrase
  | regexp | wildcard | termRange =>
    obtain ⟨r, -, h⟩ := bind_eq_ok.1 h
    exact absurd (pure_eq_ok.1 h) anyTerm_ne_phrase
  | term word => cases h
  | flag =>
    obtain ⟨-, -, h⟩ := bind_eq_ok.1 h
    cases h
  | numericRange | geoBox | geoDistance | geoPolygon | geoShape | network =>
    obtain ⟨x, -, h⟩ := bind_eq_ok.1 h
    obtain ⟨-, -, h⟩ := bind_eq_ok.1 h
    cases h
  | dateRange b parser =>
    obtain ⟨-, -, h⟩ := bind_eq_ok.1 h
    obtain ⟨layouts, -, h⟩ := bind_eq_ok.1 h
    obtain ⟨dates, -, h⟩ := bind_eq_ok.1 h
    cases h

end Plans

namespace Query

/-- A slot is empty exactly when no term that the phrase holds at its position has a match.  So
empty slots stand for positions without terms alone, if and only if at each position that holds
terms at least one has a match. -/
theorem phrase_slots {context : Context} {t : Target} {c : Criterion} {field f : String}
    {boost : Option Float} {slots : List (List String)} {b : Float} {o : Options}
    (h : (Query.onField c field boost).compile context t = .ok (.leaf (.phrase f slots) b o)) :
    f = t.resolve field ∧
    (∀ i slot, slots[i]? = some slot →
      (slot = [] ↔ ∀ word, c.Holds t f i word → ¬ t.HasMatch f c.phraseFuzziness word)) ∧
    ((∀ i, slots[i]? = some [] → ∀ word, ¬ c.Holds t f i word) ↔
      ∀ i, (∃ word, c.Holds t f i word) →
        ∃ word, c.Holds t f i word ∧ t.HasMatch f c.phraseFuzziness word) := by
  obtain ⟨-, -, lowered⟩ := bind_eq_ok.1 h
  obtain ⟨rfl, held, rfl, holds⟩ := lower_eq_phrase lowered
  have empty : ∀ i slot, (held.map (SearchQuery.slot t (t.resolve field) c.phraseFuzziness))[i]? =
      some slot → (slot = [] ↔ ∀ word, c.Holds t (t.resolve field) i word →
        ¬ t.HasMatch (t.resolve field) c.phraseFuzziness word) := by
    intro i slot hslot
    rw [List.getElem?_map] at hslot
    obtain ⟨terms, hterms, rfl⟩ := Option.map_eq_some_iff.1 hslot
    rw [slot_eq_nil]
    constructor
    · intro h word hword
      obtain ⟨terms', hterms', hmem⟩ := (holds i word).1 hword
      rw [hterms] at hterms'
      cases hterms'
      exact h word hmem
    · intro h word hmem
      exact h word ((holds i word).2 ⟨terms, hterms, hmem⟩)
  refine ⟨rfl, empty, ?_, ?_⟩
  · rintro vacant i ⟨word, hword⟩
    refine Classical.byContradiction fun unmatched => ?_
    obtain ⟨terms, hterms, -⟩ := (holds i word).1 hword
    have hslot : (held.map (SearchQuery.slot t (t.resolve field) c.phraseFuzziness))[i]? =
        some (SearchQuery.slot t (t.resolve field) c.phraseFuzziness terms) := by
      rw [List.getElem?_map, hterms]
      rfl
    have hnil := (empty i _ hslot).2 fun other hother hmatch => unmatched ⟨other, hother, hmatch⟩
    rw [hnil] at hslot
    exact vacant i hslot word hword
  · intro matched i hslot word hword
    obtain ⟨other, hother, hmatch⟩ := matched i ⟨word, hword⟩
    exact (empty i [] hslot).1 rfl other hother hmatch

/-- The middle term of a phrase is near a term of the dictionary and the others are not. -/
theorem phrase_slots_middle :
    let c : Criterion := .phrase ["aaaa", "rost", "zzzz"] (some (.edits 1))
    let t : Target := ⟨fun _ => ["rust"], Schema.initial.mapping, {}⟩
    let slots : List (List String) := [[], ["rust"], []]
    (Query.onField c "body" none).compile {} t =
      .ok (.leaf (.phrase "body" slots) defaultBoost {}) ∧
    ∀ word, c.Holds t "body" 0 word → ¬ t.HasMatch "body" (.edits 1) word := by
  intro c t slots
  have compiled : (Query.onField c "body" none).compile {} t =
      .ok (.leaf (.phrase "body" slots) defaultBoost {}) := rfl
  exact ⟨compiled, ((phrase_slots compiled).2.1 0 [] rfl).1 rfl⟩

/-- A phrase of one term that is far from all terms of the index is met by any term. -/
theorem phrase_slots_of_unknown_term :
    let c : Criterion := .phrase ["zzz"] (some (.edits 1))
    let t : Target := ⟨fun _ => [], Schema.initial.mapping, {}⟩
    c.check = .ok () ∧
      (Query.onField c "body" none).compile {} t =
        .ok (.leaf (.phrase "body" [[]]) defaultBoost {}) ∧
      c.Holds t "body" 0 "zzz" := by
  intro c t
  exact ⟨rfl, rfl, rfl⟩

end Query

end SearchQuery
