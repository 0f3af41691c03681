import SearchQuery.Proofs.Plan.Lowered
import SearchQuery.Proofs.Query.Everywhere

/-!
# Sets of terms in plans

Where a query asks for some terms of the dictionary, its plan holds the set of them, and matches
nothing if there are none.  A word of a text is the exception: its set is put into the plan as it
is, and is empty when no term of the dictionary is near enough to the word.
-/

set_option autoImplicit false
namespace SearchQuery

/-- The condition is no set without terms. -/
def Condition.IsFilled : Condition → Prop
  | .anyTerm _ terms => terms ≠ []
  | _ => True

namespace Plan

section Everywhere
variable (p : Condition → Prop)

mutual

/-- `p` holds of every condition of the plan. -/
def Everywhere : Plan → Prop
  | .leaf c _ _ => p c
  | .conjunction cs _ _ => EverywhereIn cs
  | .disjunction ds _ _ _ => EverywhereIn ds
  | .boolean must should mustNot _ _ =>
    EverywhereSlot must ∧ EverywhereSlot should ∧ EverywhereSlot mustNot

def EverywhereIn : List Plan → Prop
  | [] => True
  | p :: rest => Everywhere p ∧ EverywhereIn rest

def EverywhereSlot : Option Plan → Prop
  | none => True
  | some p => Everywhere p

end

end Everywhere

variable {p : Condition → Prop} {boost : Option Float} {options : Options}

theorem everywhereIn_iff {ps : List Plan} : EverywhereIn p ps ↔ ∀ q ∈ ps, Everywhere p q := by
  induction ps with
  | nil => simp [EverywhereIn]
  | cons q rest ih => simp [EverywhereIn, ih]

theorem everywhere_booleanPlan {must should mustNot : Option Plan} (nothing : p .nothing)
    (everything : p .everything) :
    (booleanPlan must should mustNot boost options).Everywhere p ↔
      EverywhereSlot p must ∧ EverywhereSlot p should ∧ EverywhereSlot p mustNot := by
  cases must with
  | some m => exact Iff.rfl
  | none =>
    cases should with
    | some s => exact Iff.rfl
    | none =>
      cases mustNot with
      | none => exact iff_of_true nothing ⟨trivial, trivial, trivial⟩
      | some n => exact and_congr_left fun _ => iff_of_true everything trivial

theorem anyTerm_filled (field : String) (terms : List String) :
    (Plan.anyTerm field terms boost options).Everywhere Condition.IsFilled := by
  unfold Plan.anyTerm
  split
  · trivial
  · rename_i filled
    intro none
    exact filled (List.isEmpty_iff.2 none)

theorem anyTerm_eq_nothing {field : String} {terms : List String} :
    Plan.anyTerm field terms boost options = .nothing options ↔ terms = [] := by
  unfold Plan.anyTerm
  split
  · rename_i empty
    exact iff_of_true rfl (List.isEmpty_iff.1 empty)
  · rename_i filled
    refine iff_of_false ?_ fun none => filled (List.isEmpty_iff.2 none)
    simp [Plan.nothing, Plan.ofCondition]

end Plan

def Target.Finds (t : Target) (field : String) (prefixLength : Nat) (fuzziness : Fuzziness)
    (word : String) : Prop :=
  fuzziness.editsFor word = 0 ∨
    ∃ candidate ∈ t.terms field, Target.sharesPrefix prefixLength word candidate = true ∧
      editDistance word candidate ≤ fuzziness.editsFor word

/-- Every word of a text stands for a term; other criteria have no words. -/
def Criterion.FindsWords (t : Target) (field : String) : Criterion → Prop
  | .text words analyzer prefixLength fuzziness _ =>
    ∀ analyze, t.analyzer analyzer field = .ok analyze → ∀ token ∈ analyze words,
      t.Finds field (prefixLength.getD 0).toNat (fuzzinessOfText fuzziness) token.term
  | _ => True

theorem Target.similarTerms_eq_nil {t : Target} {field word : String} {edits prefixLength : Nat} :
    t.similarTerms field word edits prefixLength = [] ↔ ∀ candidate ∈ t.terms field,
      ¬ (sharesPrefix prefixLength word candidate = true ∧
        editDistance word candidate ≤ edits) := by
  rw [similarTerms, List.filter_eq_nil_iff]
  simp only [Bool.and_eq_true, decide_eq_true_iff]

section Words
variable {t : Target} {field : String} {prefixLength : Nat} {fuzziness : Fuzziness}

theorem termCondition_filled {word : String} :
    (termCondition t field prefixLength fuzziness word).IsFilled ↔
      t.Finds field prefixLength fuzziness word := by
  unfold termCondition Target.Finds
  by_cases exact : fuzziness.editsFor word = 0
  · rw [if_pos exact]
    exact iff_of_true trivial (.inl exact)
  · rw [if_neg exact, or_iff_right exact, Condition.IsFilled, ne_eq, Target.similarTerms_eq_nil]
    simp

theorem textPlan_filled {operator : Operator} {boost : Option Float} {tokens : List Token} :
    (textPlan t field prefixLength fuzziness operator boost tokens).Everywhere
        Condition.IsFilled ↔
      ∀ token ∈ tokens, t.Finds field prefixLength fuzziness token.term := by
  have each (tokens : List Token) : Plan.EverywhereIn Condition.IsFilled (tokens.map fun token =>
      .ofCondition (termCondition t field prefixLength fuzziness token.term) none t.options) ↔
      ∀ token ∈ tokens, t.Finds field prefixLength fuzziness token.term := by
    rw [Plan.everywhereIn_iff, List.forall_mem_map]
    exact forall₂_congr fun _ _ => termCondition_filled
  cases tokens with
  | nil => exact iff_of_true trivial (by simp)
  | cons token rest =>
    cases rest with
    | nil =>
      rw [List.forall_mem_singleton]
      exact termCondition_filled
    | cons _ _ => cases operator <;> exact each _

end Words

theorem Criterion.lower_filled {t : Target} {field : String} {boost : Option Float} {c : Criterion}
    {p : Plan} (h : c.lower t field boost = .ok p) :
    p.Everywhere Condition.IsFilled ↔ c.FindsWords t field := by
  cases c with
  | text words analyzer prefixLength fuzziness operator =>
    obtain ⟨-, -, h⟩ := bind_eq_ok.1 h
    obtain ⟨analyze, named, h⟩ := bind_eq_ok.1 h
    cases h
    rw [textPlan_filled]
    constructor
    · intro found analyze' named'
      rw [named] at named'
      cases named'
      exact found
    · intro found
      exact found analyze named
  | fuzzy word prefixLength fuzziness =>
    obtain ⟨-, -, h⟩ := bind_eq_ok.1 h
    dsimp only at h
    split at h
    · cases h
      exact iff_of_true trivial trivial
    · cases h
      exact iff_of_true (Plan.anyTerm_filled ..) trivial
  | stem start =>
    cases h
    exact iff_of_true (Plan.anyTerm_filled ..) trivial
  | regexp | wildcard | termRange =>
    obtain ⟨r, -, h⟩ := bind_eq_ok.1 h
    cases h
    exact iff_of_true (Plan.anyTerm_filled ..) trivial
  | term word =>
    cases h
    exact iff_of_true trivial trivial
  | textPhrase words analyzer fuzziness =>
    obtain ⟨-, -, h⟩ := bind_eq_ok.1 h
    obtain ⟨analyze, -, h⟩ := bind_eq_ok.1 h
    dsimp only at h
    split at h
    · cases h
      exact iff_of_true trivial trivial
    · cases h
      exact iff_of_true trivial trivial
  | flag | phrase | multiPhrase =>
    obtain ⟨-, -, h⟩ := bind_eq_ok.1 h
    cases h
    exact iff_of_true trivial trivial
  | numericRange | geoBox | geoDistance | geoPolygon | geoShape | network =>
    obtain ⟨x, -, h⟩ := bind_eq_ok.1 h
    obtain ⟨-, -, h⟩ := bind_eq_ok.1 h
    cases h
    exact iff_of_true trivial trivial
  | dateRange b parser =>
    obtain ⟨-, -, h⟩ := bind_eq_ok.1 h
    obtain ⟨layouts, -, h⟩ := bind_eq_ok.1 h
    obtain ⟨dates, -, h⟩ := bind_eq_ok.1 h
    cases h
    exact iff_of_true trivial trivial

/-- The criteria that ask for terms of the dictionary, and the terms that they ask for. -/
inductive Criterion.Expands : Criterion → (String → Prop) → Prop
  | fuzzy {word : String} {prefixLength : Option UInt32} {fuzziness : Option Fuzziness}
      (inexact : (fuzzinessOfTerm fuzziness).editsFor word ≠ 0) :
    Expands (.fuzzy word prefixLength fuzziness) fun candidate =>
      Target.sharesPrefix (prefixLength.getD 0).toNat word candidate = true ∧
        editDistance word candidate ≤ (fuzzinessOfTerm fuzziness).editsFor word
  | stem {start : String} :
    Expands (.stem start) fun candidate => start.toList <+: candidate.toList
  | regexp {pattern : String} {r : Regex} (h : patternOf pattern = .ok r) :
    Expands (.regexp pattern) fun candidate => r.isMatch candidate = true
  | wildcard {pattern : String} {r : Regex} (h : wildcardOf pattern = .ok r) :
    Expands (.wildcard pattern) fun candidate => r.isMatch candidate = true
  | termRange {bounds : Bounds String} :
    Expands (.termRange bounds) fun candidate => bounds.containsTerm candidate = true

theorem Criterion.Expands.lower_eq_nothing {t : Target} {field : String} {boost : Option Float}
    {c : Criterion} {asked : String → Prop} {p : Plan} (expands : c.Expands asked)
    (h : c.lower t field boost = .ok p) :
    p = .nothing t.options ↔ ∀ term ∈ t.terms field, ¬ asked term := by
  cases expands with
  | @fuzzy word prefixLength fuzziness inexact =>
    obtain ⟨-, -, h⟩ := bind_eq_ok.1 h
    dsimp only at h
    rw [if_neg inexact] at h
    cases h
    rw [Plan.anyTerm_eq_nothing]
    exact Target.similarTerms_eq_nil
  | stem =>
    cases h
    rw [Plan.anyTerm_eq_nothing, List.filter_eq_nil_iff]
    simp only [List.isPrefixOf_iff_prefix]
  | regexp read =>
    obtain ⟨r, read', h⟩ := bind_eq_ok.1 h
    rw [read] at read'
    cases read'
    cases h
    rw [Plan.anyTerm_eq_nothing, List.filter_eq_nil_iff]
  | wildcard read =>
    obtain ⟨r, read', h⟩ := bind_eq_ok.1 h
    rw [read] at read'
    cases read'
    cases h
    rw [Plan.anyTerm_eq_nothing, List.filter_eq_nil_iff]
  | termRange =>
    obtain ⟨-, -, h⟩ := bind_eq_ok.1 h
    cases h
    rw [Plan.anyTerm_eq_nothing, List.filter_eq_nil_iff]

namespace Query

/-- The words of every text of a node stand for terms, where `texts` says so of query strings. -/
def FindsWords (t : Target) (texts : String → Prop) : Query → Prop
  | .onField c field _ => c.FindsWords t (t.resolve field)
  | .queryString text _ => texts text
  | _ => True

section Trees
variable {t : Target} {onText : String → Except PlanError Plan} {texts : String → Prop}

mutual

/-- The plan of a tree has no empty set exactly when the words of all of its nodes are found. -/
theorem lowerTree_filled (hText : ∀ text p, onText text = .ok p →
    (p.Everywhere Condition.IsFilled ↔ texts text)) :
    ∀ (q : Query) (p : Plan), q.lowerTree t onText = .ok p →
      (p.Everywhere Condition.IsFilled ↔ q.Everywhere (FindsWords t texts))
  | .onField c field boost, p, h => by
    rw [lowerTree] at h
    exact c.lower_filled h
  | .documents ids boost, p, h => by
    rw [lowerTree] at h
    cases h
    refine iff_of_true ?_ trivial
    unfold documentsPlan
    dsimp only
    split <;> trivial
  | .everything boost, p, h => by
    rw [lowerTree] at h
    cases h
    exact iff_of_true trivial trivial
  | .nothing boost, p, h => by
    rw [lowerTree] at h
    cases h
    exact iff_of_true trivial trivial
  | .queryString text boost, p, h => by
    rw [lowerTree] at h
    exact hText text p h
  | .conjunction cs boost, p, h => by
    have own : FindsWords t texts (.conjunction cs boost) := trivial
    rw [Everywhere, and_iff_right own]
    obtain ⟨rfl, rfl⟩ | ⟨-, ps, each, rfl⟩ := lowerTree_conjunction.1 h
    · exact iff_of_true trivial trivial
    · exact lowerEach_filled hText cs ps each
  | .disjunction ds min boost, p, h => by
    have own : FindsWords t texts (.disjunction ds min boost) := trivial
    rw [Everywhere, and_iff_right own]
    obtain ⟨-, ⟨rfl, rfl⟩ | ⟨-, ps, each, rfl⟩⟩ := lowerTree_disjunction.1 h
    · exact iff_of_true trivial trivial
    · exact lowerEach_filled hText ds ps each
  | .boolean must should mustNot boost, p, h => by
    have own : FindsWords t texts (.boolean must should mustNot boost) := trivial
    rw [Everywhere, and_iff_right own]
    obtain ⟨m, s, n, hm, hs, hn, rfl⟩ := lowerTree_boolean.1 h
    rw [Plan.everywhere_booleanPlan trivial trivial, lowerSlot_filled hText must m hm,
      lowerSlot_filled hText should s hs, lowerSlot_filled hText mustNot n hn]

theorem lowerEach_filled (hText : ∀ text p, onText text = .ok p →
    (p.Everywhere Condition.IsFilled ↔ texts text)) :
    ∀ (qs : List Query) (ps : List Plan), lowerEach t onText qs = .ok ps →
      (Plan.EverywhereIn Condition.IsFilled ps ↔ EverywhereIn (FindsWords t texts) qs)
  | [], ps, h => by
    obtain rfl := lowerEach_nil.1 h
    exact iff_of_true trivial trivial
  | q :: rest, ps, h => by
    obtain ⟨p, ps, hp, hps, rfl⟩ := lowerEach_cons.1 h
    exact and_congr (lowerTree_filled hText q p hp) (lowerEach_filled hText rest ps hps)

theorem lowerSlot_filled (hText : ∀ text p, onText text = .ok p →
    (p.Everywhere Condition.IsFilled ↔ texts text)) :
    ∀ (slot : Option Query) (p : Option Plan), lowerSlot t onText slot = .ok p →
      (Plan.EverywhereSlot Condition.IsFilled p ↔ EverywhereSlot (FindsWords t texts) slot)
  | none, p, h => by
    obtain rfl := lowerSlot_none.1 h
    exact iff_of_true trivial trivial
  | some q, p, h => by
    obtain ⟨p, rfl, hp⟩ := lowerSlot_some.1 h
    exact lowerTree_filled hText q p hp

end

end Trees

/-- The words of the query that a text denotes stand for terms. -/
def TextFindsWords (t : Target) (text : String) : Prop :=
  ∀ q, parseQueryString text = .ok q → q.Everywhere (FindsWords t fun _ => True)

theorem lowerText_filled {t : Target} (text : String) (p : Plan) (h : lowerText t text = .ok p) :
    p.Everywhere Condition.IsFilled ↔ TextFindsWords t text := by
  unfold lowerText at h
  unfold TextFindsWords
  cases parsed : parseQueryString text with
  | error e =>
    rw [parsed] at h
    cases h
  | ok q =>
    rw [parsed] at h
    simp only [Except.ok.injEq, forall_eq']
    refine lowerTree_filled ?_ q p h
    rintro - p ⟨⟩
    exact iff_of_true trivial trivial

/-- A plan has no empty set of terms exactly when every word of every text of the query, those of
query strings included, stands for itself or for a term of the dictionary.  Queries that ask the
dictionary for terms otherwise have a plan that matches nothing when they find none. -/
theorem compile_filled {context : Context} {t : Target} {q : Query} {p : Plan}
    (h : q.compile context t = .ok p) :
    (p.Everywhere Condition.IsFilled ↔ q.Everywhere (FindsWords t (TextFindsWords t))) ∧
    ∀ c field boost asked, q = .onField c field boost → c.Expands asked →
      (p = .nothing t.options ↔ ∀ term ∈ t.terms (t.resolve field), ¬ asked term) := by
  obtain ⟨-, -, lowered⟩ := bind_eq_ok.1 h
  refine ⟨lowerTree_filled lowerText_filled q p lowered, ?_⟩
  rintro c field boost asked rfl expands
  exact expands.lower_eq_nothing lowered

/-- A word one edit from a term has a set with that term; a prefix of no term matches nothing. -/
theorem compile_filled_found :
    let word : Query := .onField (.text "rost" none none (some (.edits 1)) none) "body" none
    let q : Query := .conjunction [word, .onField (.stem "x") "body" none] none
    let t : Target := ⟨fun _ => ["rust"], Schema.initial.mapping, {}⟩
    let p : Plan := .conjunction
      [.leaf (.anyTerm "body" ["rust"]) defaultBoost {}, .nothing {}] defaultBoost {}
    q.compile {} t = .ok p ∧ p.Everywhere Condition.IsFilled ∧
      q.Everywhere (FindsWords t (TextFindsWords t)) := by
  intro word q t p
  have compiled : q.compile {} t = .ok p := by
    with_unfolding_all rfl
  have found : ["rust"] ≠ [] := List.cons_ne_nil _ _
  have filled : p.Everywhere Condition.IsFilled := ⟨found, trivial, trivial⟩
  exact ⟨compiled, filled, (compile_filled compiled).1.1 filled⟩

/-- A word that is far from all terms of the index has an empty set, where a fuzzy query for the
same term has a plan that matches nothing. -/
theorem compile_empty_set_of_unknown_word :
    let word : Query := .onField (.text "zzz" none none (some (.edits 1)) none) "" none
    let term : Query := .onField (.fuzzy "zzz" none (some (.edits 1))) "" none
    let t : Target := ⟨fun _ => [], Schema.initial.mapping, {}⟩
    let p : Plan := .leaf (.anyTerm "_all" []) defaultBoost {}
    word.compile {} t = .ok p ∧ ¬ p.Everywhere Condition.IsFilled ∧
      term.compile {} t = .ok (.nothing {}) := by
  intro word term t p
  have compiled : word.compile {} t = .ok p := by
    with_unfolding_all rfl
  refine ⟨compiled, ?_, rfl⟩
  intro filled
  exact filled rfl

end Query

end SearchQuery
