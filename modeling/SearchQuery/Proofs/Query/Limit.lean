import SearchQuery.Proofs.Query.Faults
import SearchQuery.Proofs.Query.Substitution

/-!
# The limit of expansion

Replacements count where one is in the result of the other, and not where one is below the other in
a query.  Main statement: expansion succeeds as far as the limit goes, and beyond it reports the first
text that would be one replacement too many.
-/

set_option autoImplicit false
namespace SearchQuery.Query

section Limit
variable {ε : Type} (parse : String → Except ε Query)

/-- After `n` replacements, each in the result of the one before, a query string is at the end of the
path.  It would be the next to be replaced. -/
inductive Meets : Nat → Query → List Step → String → Prop
  | here {q : Query} {path : List Step} {text : String} (node : q.HasTextAt path text) :
    Meets 0 q path text
  | inside {n : Nat} {q r : Query} {outer inner : List Step} {text text' : String}
      (node : q.HasTextAt outer text) (parsed : parse text = .ok r)
      (h : Meets n r inner text') : Meets (n + 1) q (outer ++ inner) text'

def faultsWithin : (budget : Nat) → Query → FaultSet (ExpansionFault ε)
  | 0 => TextFaults fun text path fault => path = [] ∧ fault = .tooDeep text
  | budget + 1 => TextFaults (parsedFaults parse (faultsWithin budget))

variable {parse}

theorem textFaults_overrideBoost {φ : Type} {F : String → FaultSet φ} (boost : Option Float)
    (q : Query) (path : List Step) (fault : φ) :
    TextFaults F (q.overrideBoost boost) path fault ↔ TextFaults F q path fault := by
  unfold TextFaults
  simp only [hasTextAt_overrideBoost]

theorem faultsWithin_overrideBoost (budget : Nat) (boost : Option Float) (q : Query)
    (path : List Step) (fault : ExpansionFault ε) :
    faultsWithin parse budget (q.overrideBoost boost) path fault ↔
      faultsWithin parse budget q path fault := by
  cases budget with
  | zero => exact textFaults_overrideBoost boost q path fault
  | succ budget => exact textFaults_overrideBoost boost q path fault

theorem expandWithin_reports (budget : Nat) (q : Query) :
    Reports (faultsWithin parse budget q) (q.expandWithin parse budget) := by
  induction budget generalizing q with
  | zero =>
    apply replaceTexts_reports
    intro text boost
    exact Reports.here fun _ _ => Iff.rfl
  | succ budget ih =>
    apply replaceTexts_reports
    intro text boost
    cases parsed : parse text with
    | error e => exact Reports.here (parsedFaults_error parsed)
    | ok r =>
      apply Reports.congr (parsedFaults_ok parsed)
      apply Reports.congr (faultsWithin_overrideBoost budget boost r)
      exact ih (r.overrideBoost boost)

theorem faultsWithin_tooDeep {budget : Nat} {q : Query} {path : List Step} {text : String} :
    faultsWithin parse budget q path (.tooDeep text) ↔ Meets parse budget q path text := by
  induction budget generalizing q path with
  | zero =>
    constructor
    · rintro ⟨outer, inner, text', node, rfl, rfl, ⟨⟩⟩
      rw [List.append_nil]
      exact .here node
    · intro h
      cases h with
      | here node => exact ⟨path, [], text, node, (List.append_nil path).symm, rfl, rfl⟩
  | succ budget ih =>
    constructor
    · rintro ⟨outer, inner, text', node, rfl, h⟩
      cases parsed : parse text' with
      | error e => cases ((parsedFaults_error parsed _ _).1 h).2
      | ok r => exact .inside node parsed (ih.1 ((parsedFaults_ok parsed _ _).2 h))
    · intro h
      cases h with
      | @inside _ _ r outer inner text' _ node parsed h =>
        exact ⟨outer, inner, text', node, rfl, (parsedFaults_ok parsed _ _).1 (ih.2 h)⟩

theorem faultsWithin_grammar {budget : Nat} {q : Query} {path : List Step} {e : ε} :
    faultsWithin parse budget q path (.grammar e) ↔
      ∃ n < budget, ∃ text, Meets parse n q path text ∧ parse text = .error e := by
  induction budget generalizing q path with
  | zero =>
    constructor
    · rintro ⟨outer, inner, text', node, rfl, rfl, ⟨⟩⟩
    · rintro ⟨n, less, -⟩
      exact absurd less (Nat.not_lt_zero n)
  | succ budget ih =>
    constructor
    · rintro ⟨outer, inner, text, node, rfl, h⟩
      cases parsed : parse text with
      | error e' =>
        obtain ⟨rfl, ⟨⟩⟩ := (parsedFaults_error parsed _ _).1 h
        rw [List.append_nil]
        exact ⟨0, Nat.succ_pos budget, text, .here node, parsed⟩
      | ok r =>
        obtain ⟨n, less, text', meets, refused⟩ := ih.1 ((parsedFaults_ok parsed _ _).2 h)
        exact ⟨n + 1, Nat.succ_lt_succ less, text', .inside node parsed meets, refused⟩
    · rintro ⟨n, less, text, meets, refused⟩
      cases meets with
      | here node =>
        have alone : parsedFaults parse (faultsWithin parse budget) text [] (.grammar e) :=
          (parsedFaults_error refused _ _).2 ⟨rfl, rfl⟩
        exact ⟨path, [], text, node, (List.append_nil path).symm, alone⟩
      | @inside n _ r outer inner text' _ node parsed h =>
        have within := ih.2 ⟨n, Nat.lt_of_succ_lt_succ less, text, h, refused⟩
        exact ⟨outer, inner, text', node, rfl, (parsedFaults_ok parsed _ _).1 within⟩

theorem tooDeep_message (text : String) (grammarMessage : ε → String) :
    (ExpansionFault.tooDeep text).message grammarMessage =
      "query string '" ++ text ++ "' expands deeper than 64 levels" := by
  have limit : toString maxExpansions = "64" := rfl
  have behind : "' expands deeper than 64 levels" =
      "' expands deeper than " ++ ("64" ++ " levels") := rfl
  rw [behind, ← String.append_assoc, ← String.append_assoc, ← limit]
  rfl

/-- Of the texts that are met after `n` replacements, the one that is written first. -/
def MeetsFirst (parse : String → Except ε Query) (n : Nat) (q : Query) (path : List Step)
    (text : String) : Prop :=
  Meets parse n q path text ∧ ∀ path' text', Meets parse n q path' text' →
    (path' = path ∧ text' = text) ∨ Precedes path path'

/-- Either all texts are replaced, or there is one replacement too many, or a text is refused. -/
theorem expandWithin_cases (parse : String → Except ε Query) (budget : Nat) (q : Query) :
    (∃ e, q.expandWithin parse budget = .ok e ∧ Expands parse q e ∧
        ∀ path text, ¬Meets parse budget q path text) ∨
      (∃ report text, q.expandWithin parse budget = .error report ∧
        report.cause = .tooDeep text ∧ MeetsFirst parse budget q report.path text) ∨
      ∃ report text e, q.expandWithin parse budget = .error report ∧ report.cause = .grammar e ∧
        parse text = .error e ∧ ∃ n < budget, Meets parse n q report.path text := by
  have reports : Reports (faultsWithin parse budget q) (q.expandWithin parse budget) :=
    expandWithin_reports budget q
  cases result : q.expandWithin parse budget with
  | ok e =>
    rw [result] at reports
    cases reports with
    | ok none =>
      refine .inl ⟨e, rfl, expands_of_expandWithin result, ?_⟩
      intro path text meets
      exact none path _ (faultsWithin_tooDeep.2 meets)
  | error report =>
    rw [result] at reports
    cases reports with
    | error found first =>
      cases cause : report.cause with
      | tooDeep text =>
        rw [cause] at found first
        refine .inr (.inl ⟨report, text, rfl, cause, faultsWithin_tooDeep.1 found, ?_⟩)
        intro path' text' meets
        apply (first path' _ (faultsWithin_tooDeep.2 meets)).imp_left
        rintro ⟨same, ⟨⟩⟩
        exact ⟨same, rfl⟩
      | grammar e =>
        rw [cause] at found
        obtain ⟨n, less, text, meets, refused⟩ := faultsWithin_grammar.1 found
        exact .inr (.inr ⟨report, text, e, rfl, cause, refused, n, less, meets⟩)

/-- Expansion always has a result: the query with all texts replaced, or a report on a text in its
place.  If the texts that are met can be parsed, there is a report exactly if one is met after
sixty-four replacements, and it tells of the first of these. -/
theorem expandWith_limit (parse : String → Except ε Query) (q : Query) :
    ((∃ e, q.expandWith parse = .ok e ∧ Expands parse q e) ∨
      (∃ report text, q.expandWith parse = .error report ∧ report.cause = .tooDeep text ∧
        Meets parse 64 q report.path text) ∨
      ∃ report text e, q.expandWith parse = .error report ∧ report.cause = .grammar e ∧
        parse text = .error e ∧ ∃ n < 64, Meets parse n q report.path text) ∧
    ((∀ n < 64, ∀ path text, Meets parse n q path text → ∃ r, parse text = .ok r) →
      ((∀ path text, ¬Meets parse 64 q path text) →
        ∃ e, q.expandWith parse = .ok e ∧ Expands parse q e ∧ ∀ e', Expands parse q e' → e' = e) ∧
      ((∃ path text, Meets parse 64 q path text) →
        ∃ report text, q.expandWith parse = .error report ∧ report.cause = .tooDeep text ∧
          MeetsFirst parse 64 q report.path text ∧
          ∀ grammarMessage : ε → String, report.cause.message grammarMessage =
            "query string '" ++ text ++ "' expands deeper than 64 levels")) := by
  rcases expandWithin_cases parse 64 q with ⟨e, result, expanded, none⟩ |
    ⟨report, text, result, cause, first⟩ |
    ⟨report, text, e, result, cause, refused, n, less, meets⟩
  · refine ⟨.inl ⟨e, result, expanded⟩, fun _ => ⟨?_, ?_⟩⟩
    · intro _
      exact ⟨e, result, expanded, fun e' h => h.unique expanded⟩
    · rintro ⟨path, text, meets⟩
      exact absurd meets (none path text)
  · refine ⟨.inr (.inl ⟨report, text, result, cause, first.1⟩), fun _ => ⟨?_, ?_⟩⟩
    · intro none
      exact absurd first.1 (none report.path text)
    · intro _
      refine ⟨report, text, result, cause, first, ?_⟩
      intro grammarMessage
      rw [cause, tooDeep_message]
  · refine ⟨.inr (.inr ⟨report, text, e, result, cause, refused, n, less, meets⟩), ?_⟩
    intro parses
    obtain ⟨r, parsed⟩ := parses n less report.path text meets
    cases refused.symm.trans parsed

end Limit

section Examples

def letters (n : Nat) : String := String.ofList (List.replicate n 'a')

def parseRest (text : String) : Except Unit Query :=
  match text.toList with
  | [] => .ok (.nothing none)
  | _ :: rest => .ok (.queryString (String.ofList rest) none)

theorem parseRest_zero : parseRest (letters 0) = .ok (.nothing none) := by
  unfold parseRest letters
  rw [String.toList_ofList]
  rfl

theorem parseRest_succ (k : Nat) :
    parseRest (letters (k + 1)) = .ok (.queryString (letters k) none) := by
  unfold parseRest letters
  rw [String.toList_ofList]
  rfl

theorem hasTextAt_queryString {text text' : String} {boost : Option Float} {path : List Step} :
    (Query.queryString text boost).HasTextAt path text' ↔ path = [] ∧ text' = text := by
  constructor
  · rintro ⟨boost', node⟩
    cases path with
    | nil =>
      cases node
      exact ⟨rfl, rfl⟩
    | cons step path => cases node
  · rintro ⟨rfl, rfl⟩
    exact ⟨boost, rfl⟩

theorem not_meets_nothing {n : Nat} {path : List Step} {text : String} :
    ¬Meets parseRest n (.nothing none) path text := by
  have none : ∀ path text, ¬(Query.nothing none).HasTextAt path text := by
    rintro path text ⟨boost, node⟩
    cases path with
    | nil => cases node
    | cons step path => cases node
  intro h
  cases h with
  | here node => exact none path text node
  | inside node => exact none _ _ node

theorem meets_letters {n k : Nat} {path : List Step} {text : String} :
    Meets parseRest n (.queryString (letters k) none) path text ↔
      n ≤ k ∧ path = [] ∧ text = letters (k - n) := by
  induction n generalizing k path text with
  | zero =>
    constructor
    · intro h
      cases h with
      | here node => exact ⟨Nat.zero_le k, hasTextAt_queryString.1 node⟩
    · rintro ⟨-, rfl, rfl⟩
      exact .here (hasTextAt_queryString.2 ⟨rfl, rfl⟩)
  | succ n ih =>
    cases k with
    | zero =>
      constructor
      · intro h
        cases h with
        | inside node parsed h =>
          obtain ⟨rfl, rfl⟩ := hasTextAt_queryString.1 node
          cases parseRest_zero.symm.trans parsed
          exact absurd h not_meets_nothing
      · rintro ⟨less, -⟩
        omega
    | succ k =>
      rw [Nat.succ_sub_succ]
      constructor
      · intro h
        cases h with
        | inside node parsed h =>
          obtain ⟨rfl, rfl⟩ := hasTextAt_queryString.1 node
          cases (parseRest_succ k).symm.trans parsed
          have inner := ih.1 h
          exact ⟨by omega, inner.2⟩
      · rintro ⟨less, rfl, rfl⟩
        have inner := ih.2 ⟨Nat.le_of_succ_le_succ less, rfl, rfl⟩
        exact .inside (hasTextAt_queryString.2 ⟨rfl, rfl⟩) (parseRest_succ k) inner

theorem parseRest_total (text : String) : ∃ r, parseRest text = .ok r := by
  unfold parseRest
  cases text.toList with
  | nil => exact ⟨_, rfl⟩
  | cons c rest => exact ⟨_, rfl⟩

/-- A text of sixty-three letters takes all of the limit, and one letter more is too many. -/
theorem expandWith_limit_letters :
    let within : Query := .queryString (letters 63) none
    let beyond : Query := .queryString (letters 64) none
    (∃ e, within.expandWith parseRest = .ok e ∧ Expands parseRest within e ∧
      ∀ e', Expands parseRest within e' → e' = e) ∧
    ∃ report text, beyond.expandWith parseRest = .error report ∧ report.cause = .tooDeep text ∧
      MeetsFirst parseRest 64 beyond report.path text ∧
      ∀ grammarMessage : Unit → String, report.cause.message grammarMessage =
        "query string '" ++ text ++ "' expands deeper than 64 levels" := by
  intro within beyond
  constructor
  · apply ((expandWith_limit parseRest within).2 fun _ _ _ text _ => parseRest_total text).1
    intro path text meets
    have inside := (meets_letters.1 meets).1
    omega
  · apply ((expandWith_limit parseRest beyond).2 fun _ _ _ text _ => parseRest_total text).2
    exact ⟨[], letters 0, meets_letters.2 ⟨Nat.le_refl 64, rfl, rfl⟩⟩

end Examples

end SearchQuery.Query
