import SearchQuery.Proofs.Query.Traced

/-!
# Calls inside calls

The procedures that a procedure of the parser calls, and the places at which it does
(`Call.Makes`).  The calls of a run are complete: it has a call for every clause, and with a call
those that are made inside it (`Traced.clauses_made`).
-/

set_option autoImplicit false
namespace SearchQuery.Grammar

def Cursor.Avoids (c : Cursor) (marks : List Char) : Prop := ∀ d ∈ c.rest.head?, d ∉ marks

/-- The body of the first call makes the second. -/
inductive Call.Makes : Call → Call → Prop
  | plus {n : Nat} {r : List Char} : Makes ⟨.clause, ⟨n, '+' :: r⟩⟩ ⟨.signed, ⟨n + 1, r⟩⟩
  | minus {n : Nat} {r : List Char} : Makes ⟨.clause, ⟨n, '-' :: r⟩⟩ ⟨.signed, ⟨n + 1, r⟩⟩
  | unsigned {c : Cursor} (bare : c.Avoids ['+', '-']) : Makes ⟨.clause, c⟩ ⟨.body, c⟩
  | signed {n : Nat} {d : Char} {r : List Char} (dark : isBlank d = false) :
    Makes ⟨.signed, ⟨n, d :: r⟩⟩ ⟨.body, ⟨n, d :: r⟩⟩
  | atom {c : Cursor} : Makes ⟨.body, c⟩ ⟨.atom, c⟩
  | boost {c k : Cursor} {q : Query} (read : parseAtom c = .ok (q, k)) :
    Makes ⟨.body, c⟩ ⟨.boost, k⟩
  | power {n : Nat} {r : List Char} : Makes ⟨.boost, ⟨n, '^' :: r⟩⟩ ⟨.numeral, ⟨n + 1, r⟩⟩
  | atomPhrase {n : Nat} {r : List Char} :
    Makes ⟨.atom, ⟨n, '"' :: r⟩⟩ ⟨.phrase, ⟨n, '"' :: r⟩⟩
  | atomPattern {n : Nat} {r : List Char} :
    Makes ⟨.atom, ⟨n, '/' :: r⟩⟩ ⟨.pattern, ⟨n, '/' :: r⟩⟩
  | atomWord {c : Cursor} (bare : c.Avoids ['"', '/']) : Makes ⟨.atom, c⟩ ⟨.word, c⟩
  | value {c : Cursor} {n : Nat} {r : List Char} (bare : c.Avoids ['"', '/'])
    (some : c.word.1 ≠ []) (behind : c.word.2 = ⟨n, ':' :: r⟩) :
    Makes ⟨.atom, c⟩ ⟨.value, ⟨n + 1, r⟩⟩
  | atomText {c : Cursor} (bare : c.Avoids ['"', '/']) (some : c.word.1 ≠ [])
    (behind : c.word.2.Avoids [':']) : Makes ⟨.atom, c⟩ ⟨.text, c.word.2⟩
  | valuePhrase {n : Nat} {r : List Char} :
    Makes ⟨.value, ⟨n, '"' :: r⟩⟩ ⟨.phrase, ⟨n, '"' :: r⟩⟩
  | valuePattern {n : Nat} {r : List Char} :
    Makes ⟨.value, ⟨n, '/' :: r⟩⟩ ⟨.pattern, ⟨n, '/' :: r⟩⟩
  | above {n : Nat} {r : List Char} : Makes ⟨.value, ⟨n, '>' :: r⟩⟩ ⟨.comparison, ⟨n + 1, r⟩⟩
  | below {n : Nat} {r : List Char} : Makes ⟨.value, ⟨n, '<' :: r⟩⟩ ⟨.comparison, ⟨n + 1, r⟩⟩
  | valueWord {c : Cursor} (some : c.rest ≠ []) (bare : c.Avoids ['"', '/', '>', '<']) :
    Makes ⟨.value, c⟩ ⟨.word, c⟩
  | valueText {c : Cursor} (bare : c.Avoids ['"', '/', '>', '<']) (some : c.word.1 ≠ []) :
    Makes ⟨.value, c⟩ ⟨.text, c.word.2⟩
  | inclusive {n : Nat} {r : List Char} :
    Makes ⟨.comparison, ⟨n, '=' :: r⟩⟩ ⟨.operand, ⟨n + 1, r⟩⟩
  | strict {c : Cursor} (bare : c.Avoids ['=']) : Makes ⟨.comparison, c⟩ ⟨.operand, c⟩
  | date {n : Nat} {r : List Char} : Makes ⟨.operand, ⟨n, '"' :: r⟩⟩ ⟨.phrase, ⟨n, '"' :: r⟩⟩
  | number {c : Cursor} (bare : c.Avoids ['"']) : Makes ⟨.operand, c⟩ ⟨.word, c⟩
  | edits {n : Nat} {r : List Char} : Makes ⟨.text, ⟨n, '~' :: r⟩⟩ ⟨.edits, ⟨n + 1, r⟩⟩
  | count {c : Cursor} : Makes ⟨.edits, c⟩ ⟨.numeral, c⟩

/-- The calls that the clauses from a cursor on take: for each clause, and inside other calls. -/
inductive Made : Cursor → Call → Prop
  | blank {c : Cursor} : Made c ⟨.blank, c⟩
  | clause {c : Cursor} (some : c.skipBlank.rest ≠ []) : Made c ⟨.clause, c.skipBlank⟩
  | later {c k : Cursor} {clause : Occur × Query} {call : Call}
    (read : parseClause c.skipBlank = .ok (clause, k)) (made : Made k call) : Made c call
  | inside {c : Cursor} {outer inner : Call} (made : Made c outer) (makes : outer.Makes inner) :
    Made c inner

def Closed (calls : List Call) : Prop := ∀ x ∈ calls, ∀ y, x.Makes y → y ∈ calls

namespace Closed
variable {α : Type} {calls later : List Call}

theorem append (first : Closed calls) (second : Closed later) : Closed (calls ++ later) := by
  intro x mem y makes
  rcases List.mem_append.1 mem with mem | mem
  · exact List.mem_append_left _ (first x mem y makes)
  · exact List.mem_append_right _ (second x mem y makes)

theorem cons {x : Call} (inside : ∀ y, x.Makes y → y ∈ x :: calls) (h : Closed calls) :
    Closed (x :: calls) := by
  intro z mem y makes
  rcases List.mem_cons.1 mem with rfl | mem
  · exact inside y makes
  · exact List.mem_cons_of_mem _ (h z mem y makes)

end Closed

namespace Traced
variable {α : Type} {c : Cursor}

theorem mem_enter (p : Procedure) (c : Cursor) (t : Traced α) : ⟨p, c⟩ ∈ (enter p c t).calls :=
  List.mem_cons_self

theorem mem_inside {p : Procedure} {t : Traced α} {y : Call} (h : y ∈ t.calls) :
    y ∈ (enter p c t).calls := List.mem_cons_of_mem _ h

theorem mem_first {calls : List Call} {t : Traced α} {y : Call} (h : y ∈ calls) :
    y ∈ (after calls t).calls := List.mem_append_left _ h

theorem mem_after {calls : List Call} {t : Traced α} {y : Call} (h : y ∈ t.calls) :
    y ∈ (after calls t).calls := List.mem_append_right _ h

theorem pure_closed (r : Except Fault α) : Closed (pure r).calls := nofun

theorem after_closed {calls : List Call} {t : Traced α} (first : Closed calls)
    (h : Closed t.calls) : Closed (after calls t).calls := first.append h

theorem enter_closed {p : Procedure} {t : Traced α}
    (inside : ∀ y, Call.Makes ⟨p, c⟩ y → y ∈ t.calls) (h : Closed t.calls) :
    Closed (enter p c t).calls := h.cons fun y makes => List.mem_cons_of_mem _ (inside y makes)

section Loops
variable {p : Procedure} {stops : Char → Bool} {escapes : Bool}

theorem mem_scan (offset : Nat) (cs : List Char) :
    ⟨p, ⟨offset, cs⟩⟩ ∈ scan p stops escapes offset cs := by
  fun_cases scan p stops escapes offset cs <;> simp

theorem procedure_of_mem_scan {offset : Nat} {cs : List Char} {x : Call}
    (mem : x ∈ scan p stops escapes offset cs) : x.procedure = p := by
  fun_induction scan p stops escapes offset cs <;> simp_all <;> grind

theorem scan_closed (p : Procedure) (loop : ∀ k y, ¬ Call.Makes ⟨p, k⟩ y) (offset : Nat)
    (cs : List Char) : Closed (scan p stops escapes offset cs) := by
  rintro ⟨q, k⟩ mem y makes
  obtain rfl : q = p := procedure_of_mem_scan mem
  exact absurd makes (loop k y)

end Loops

theorem blank_closed (c : Cursor) : Closed (blank c) := scan_closed .blank nofun c.offset c.rest

theorem word_closed (c : Cursor) : Closed (word c) := scan_closed .word nofun c.offset c.rest

theorem numeral_closed (c : Cursor) : Closed (numeral c) :=
  scan_closed .numeral nofun c.offset c.rest

theorem mem_word (c : Cursor) : ⟨.word, c⟩ ∈ word c := mem_scan c.offset c.rest

theorem mem_numeral (c : Cursor) : ⟨.numeral, c⟩ ∈ numeral c := mem_scan c.offset c.rest

theorem not_avoids {d : Char} {r marks : List Char} {P : Prop} (bare : c.Avoids marks)
    (first : c.rest = d :: r) (mem : d ∈ marks) : P :=
  absurd mem (bare d (by rw [first]; rfl))

theorem phrase_closed (c : Cursor) : Closed (phrase c).calls :=
  enter_closed nofun (after_closed (scan_closed .phrase nofun _ _) (pure_closed _))

theorem pattern_closed (c : Cursor) : Closed (pattern c).calls :=
  enter_closed nofun (after_closed (scan_closed .pattern nofun _ _) (pure_closed _))

theorem edits_closed (c : Cursor) : Closed (edits c).calls := by
  refine enter_closed ?_ (after_closed (numeral_closed c) (pure_closed _))
  rintro _ ⟨⟩
  exact mem_first (mem_numeral c)

theorem text_closed (field : String) (word : List Char) (c : Cursor) :
    Closed (text field word c).calls := by
  obtain ⟨offset, cs⟩ := c
  unfold text
  refine enter_closed ?_ ?_
  · rintro _ ⟨⟩
    exact mem_enter ..
  · split
    · exact edits_closed _
    · exact pure_closed _

theorem operand_closed (field : String) (lower inclusive : Bool) (c : Cursor) :
    Closed (operand field lower inclusive c).calls := by
  obtain ⟨offset, cs⟩ := c
  unfold operand
  refine enter_closed ?_ ?_
  · intro y makes
    cases makes with
    | date => exact mem_enter ..
    | number bare =>
      split
      · rename_i first
        exact not_avoids bare first (by simp)
      · exact mem_first (mem_word _)
  · split
    · exact phrase_closed _
    · refine after_closed (word_closed _) ?_
      split <;> exact pure_closed _

theorem comparison_closed (field : String) (lower : Bool) (c : Cursor) :
    Closed (comparison field lower c).calls := by
  obtain ⟨offset, cs⟩ := c
  unfold comparison
  refine enter_closed ?_ ?_
  · intro y makes
    cases makes with
    | inclusive => exact mem_enter ..
    | strict bare =>
      split
      · rename_i first
        exact not_avoids bare first (by simp)
      · exact mem_enter ..
  · split <;> exact operand_closed _ _ _ _

theorem value_bare (field : String) (some : c.rest ≠ []) (bare : c.Avoids ['"', '/', '>', '<']) :
    value field c = enter .value c (after (word c) (if c.word.1.isEmpty then
      pure (.error (.missingValue field c.offset)) else text field c.word.1 c.word.2)) := by
  unfold value
  split
  · rename_i none
    exact absurd none some
  · rename_i first
    exact not_avoids bare first (by simp)
  · rename_i first
    exact not_avoids bare first (by simp)
  · rename_i first
    exact not_avoids bare first (by simp)
  · rename_i first
    exact not_avoids bare first (by simp)
  · rfl

theorem mem_value (field : String) {y : Call} (makes : Call.Makes ⟨.value, c⟩ y) :
    y ∈ (value field c).calls := by
  cases makes with
  | valuePhrase => exact mem_inside (mem_enter ..)
  | valuePattern => exact mem_inside (mem_enter ..)
  | above => exact mem_inside (mem_enter ..)
  | below => exact mem_inside (mem_enter ..)
  | valueWord some bare =>
    rw [value_bare field some bare]
    exact mem_inside (mem_first (mem_word c))
  | valueText bare some =>
    have rest : c.rest ≠ [] := by
      intro none
      rw [Cursor.word, none] at some
      exact some rfl
    rw [value_bare field rest bare, if_neg (by simpa using some)]
    exact mem_inside (mem_after (mem_enter ..))

theorem value_closed (field : String) (c : Cursor) : Closed (value field c).calls := by
  refine .cons (fun _ makes => mem_value field makes) ?_
  split
  · exact pure_closed _
  · exact phrase_closed _
  · exact pattern_closed _
  · exact comparison_closed _ _ _
  · exact comparison_closed _ _ _
  · refine after_closed (word_closed _) ?_
    split
    · exact pure_closed _
    · exact text_closed _ _ _

theorem behind_colon (word : List Char) (start n : Nat) (r : List Char) :
    behind word start ⟨n, ':' :: r⟩ = if word.isEmpty then pure (.error (.emptyField start))
      else value (String.ofList word) ⟨n + 1, r⟩ := rfl

theorem behind_closed (word : List Char) (start : Nat) (k : Cursor) :
    Closed (behind word start k).calls := by
  unfold behind
  split
  · split
    · exact pure_closed _
    · exact value_closed _ _
  · split
    · exact pure_closed _
    · exact text_closed _ _ _

theorem atom_bare (bare : c.Avoids ['"', '/']) :
    atom c = enter .atom c (after (word c) (behind c.word.1 c.offset c.word.2)) := by
  unfold atom
  split
  · rename_i first
    exact not_avoids bare first (by simp)
  · rename_i first
    exact not_avoids bare first (by simp)
  · rfl

theorem behind_bare {word : List Char} {k : Cursor} (some : word ≠ []) (bare : k.Avoids [':'])
    (start : Nat) : behind word start k = text "" word k := by
  unfold behind
  split
  · rename_i first
    exact not_avoids bare first (by simp)
  · exact if_neg (by simpa using some)

theorem mem_atom {y : Call} (makes : Call.Makes ⟨.atom, c⟩ y) : y ∈ (atom c).calls := by
  cases makes with
  | atomPhrase => exact mem_inside (mem_enter ..)
  | atomPattern => exact mem_inside (mem_enter ..)
  | atomWord bare =>
    rw [atom_bare bare]
    exact mem_inside (mem_first (mem_word c))
  | value bare some colon =>
    rw [atom_bare bare, colon, behind_colon, if_neg (by simpa using some)]
    exact mem_inside (mem_after (mem_enter ..))
  | atomText bare some other =>
    rw [atom_bare bare, behind_bare some other]
    exact mem_inside (mem_after (mem_enter ..))

theorem atom_closed (c : Cursor) : Closed (atom c).calls := by
  refine .cons (fun _ makes => mem_atom makes) ?_
  split
  · exact phrase_closed _
  · exact pattern_closed _
  · exact after_closed (word_closed _) (behind_closed _ _ _)

theorem boost_closed (q : Query) (c : Cursor) : Closed (boost q c).calls := by
  obtain ⟨offset, cs⟩ := c
  unfold boost
  refine enter_closed ?_ ?_
  · rintro _ ⟨⟩
    exact mem_first (mem_numeral _)
  · split
    · exact after_closed (numeral_closed _) (pure_closed _)
    · exact pure_closed _

theorem body_closed (c : Cursor) : Closed (body c).calls := by
  unfold body
  refine enter_closed ?_ ?_
  · intro y makes
    cases makes with
    | atom => split <;> exact mem_first (mem_enter ..)
    | boost read =>
      rw [atom_result, read]
      exact mem_after (mem_enter ..)
  · split
    · exact after_closed (atom_closed c) (boost_closed _ _)
    · exact after_closed (atom_closed c) (pure_closed _)

theorem signed_closed (sign : String) (offset : Nat) (c : Cursor) :
    Closed (signed sign offset c).calls := by
  unfold signed
  refine enter_closed ?_ ?_
  · intro y makes
    cases makes with
    | signed dark =>
      dsimp only
      rw [dark]
      exact mem_enter ..
  · split
    · exact pure_closed _
    · split
      · exact pure_closed _
      · exact body_closed c

/-- The call for a clause stands outside of its procedure. -/
theorem clause_closed (c : Cursor) : Closed (⟨.clause, c⟩ :: (clause c).calls) := by
  obtain ⟨offset, cs⟩ := c
  unfold clause
  refine .cons ?_ ?_
  · intro y makes
    refine List.mem_cons_of_mem _ ?_
    cases makes with
    | plus => exact mem_enter ..
    | minus => exact mem_enter ..
    | unsigned bare =>
      split
      · rename_i first
        exact not_avoids bare first (by simp)
      · rename_i first
        exact not_avoids bare first (by simp)
      · exact mem_enter ..
  · split
    · exact signed_closed _ _ _
    · exact signed_closed _ _ _
    · exact body_closed _

theorem mem_run {k : Cursor} {t : Traced α} {call : Call} :
    call ∈ (after (blank c) (enter .clause k (after (clause k).calls t))).calls ↔
      call ∈ blank c ∨ call ∈ (⟨.clause, k⟩ :: (clause k).calls) ∨ call ∈ t.calls := by
  simp [after, enter, or_assoc]

theorem run_closed {k : Cursor} {t : Traced α} (h : Closed t.calls) :
    Closed (after (blank c) (enter .clause k (after (clause k).calls t))).calls :=
  after_closed (blank_closed c) ((clause_closed k).append h)

theorem clauses_closed (c : Cursor) : Closed (clauses c).calls := by
  fun_induction parseClauses c with
  | case1 c k none =>
    rw [clauses_nil none]
    exact after_closed (blank_closed c) (pure_closed _)
  | case2 c k some e h =>
    rw [clauses_error some h]
    exact run_closed (pure_closed _)
  | case3 c k some first j h ih =>
    rw [clauses_cons some h]
    exact run_closed ih

theorem isEmpty_of_parseClause {k : Cursor} {clause : Occur × Query}
    (h : parseClause c = .ok (clause, k)) : ¬c.rest.isEmpty = true := by
  intro none
  have shorter := parseClause_length h
  rw [List.isEmpty_iff.1 none] at shorter
  exact absurd shorter (Nat.not_lt_zero _)

theorem clauses_made {c : Cursor} {call : Call} (h : Made c call) : call ∈ (clauses c).calls := by
  induction h with
  | @blank c =>
    have first : ⟨.blank, c⟩ ∈ blank c := mem_scan c.offset c.rest
    rw [clauses]
    exact mem_first first
  | @clause c some =>
    have some : ¬c.skipBlank.rest.isEmpty = true := fun none => some (List.isEmpty_iff.1 none)
    cases h : parseClause c.skipBlank with
    | error e =>
      rw [clauses_error some h]
      exact mem_run.2 (.inr (.inl List.mem_cons_self))
    | ok read =>
      rw [clauses_cons some h]
      exact mem_run.2 (.inr (.inl List.mem_cons_self))
  | later read made ih =>
    rw [clauses_cons (isEmpty_of_parseClause read) read]
    exact mem_run.2 (.inr (.inr ih))
  | inside made makes ih => exact clauses_closed _ _ ih _ makes

end Traced

end SearchQuery.Grammar
