import SearchQuery.Proofs.Query.Juxtaposed

/-!
# Clauses and words

White space ends a clause, but so does the number of a boost or of edits: it ends with its digits,
and what follows them at once is a clause of its own.  A text without quotes, slashes and
backslashes has one clause for each of its words, and one more wherever a word goes on behind such
a number.
-/

set_option autoImplicit false
namespace SearchQuery.Grammar
open Cursor

/-- The words of a text are its pieces between white space. -/
def wordsOf (cs : List Char) : List (List Char) := (cs.splitOnP isBlank).filter (!·.isEmpty)

def isAhead (cs : List Char) : Bool := cs.head?.any (!isBlank ·)

theorem wordsOf_blank {c : Char} (blank : isBlank c = true) (r : List Char) :
    wordsOf (c :: r) = wordsOf r := by
  rw [wordsOf, List.splitOnP_cons_eq_if_modifyHead, if_pos blank]
  rfl

theorem wordsOf_dark {c : Char} (dark : isBlank c = false) (r : List Char) :
    (wordsOf (c :: r)).length + (isAhead r).toNat = (wordsOf r).length + 1 := by
  have first : wordsOf (c :: r) =
      (((r.splitOnP isBlank).modifyHead (c :: ·)).filter (!·.isEmpty)) := by
    rw [wordsOf, List.splitOnP_cons_eq_if_modifyHead, dark]
    rfl
  rw [first]
  cases r with
  | nil => rfl
  | cons d r =>
    rw [wordsOf, isAhead, List.splitOnP_cons_eq_if_modifyHead]
    cases blank : isBlank d with
    | true => simp [blank]
    | false =>
      obtain ⟨word, words, split⟩ := List.ne_nil_iff_exists_cons.1 (List.splitOnP_ne_nil isBlank r)
      simp [blank, split]

theorem wordsOf_append {taken r : List Char} (some : taken ≠ [])
    (dark : ∀ c ∈ taken, isBlank c = false) :
    (wordsOf (taken ++ r)).length + (isAhead r).toNat = (wordsOf r).length + 1 := by
  induction taken with
  | nil => exact absurd rfl some
  | cons c taken ih =>
    have first := wordsOf_dark (dark c List.mem_cons_self) (taken ++ r)
    cases taken with
    | nil => exact first
    | cons d taken =>
      have others := ih (List.cons_ne_nil _ _) fun e he => dark e (List.mem_cons_of_mem _ he)
      have ahead : isAhead (d :: taken ++ r) = true := by
        simp [isAhead, dark d (by simp)]
      rw [ahead] at first
      change (wordsOf (c :: (d :: taken ++ r))).length + 1 = _ at first
      change (wordsOf (c :: (d :: taken ++ r))).length + _ = _
      omega

def isBeyond (cs : List Char) : Bool := cs.head?.any fun d => d != '^' && !isBlank d

/-- The character opens a boost or edits, and the word goes on behind the digits of their number.
A boost may stand behind edits. -/
def goesOn (c : Char) (r : List Char) : Bool :=
  let left := r.dropWhile isNumeralChar
  c == '^' && isAhead left || c == '~' && isBeyond left

/-- The number of places where a word goes on behind the number of a boost or of edits. -/
def cuts : List Char → Nat
  | [] => 0
  | c :: r => cuts r + (goesOn c r).toNat

theorem goesOn_plain {c : Char} (boost : c ≠ '^') (edits : c ≠ '~') (r : List Char) :
    goesOn c r = false := by
  rw [goesOn, beq_false_of_ne boost, beq_false_of_ne edits]
  rfl

theorem cuts_cons {c : Char} (boost : c ≠ '^') (edits : c ≠ '~') (r : List Char) :
    cuts (c :: r) = cuts r := by
  rw [cuts, goesOn_plain boost edits]
  rfl

theorem cuts_append {taken : List Char} (plain : ∀ c ∈ taken, c ≠ '^' ∧ c ≠ '~') (r : List Char) :
    cuts (taken ++ r) = cuts r := by
  induction taken with
  | nil => rfl
  | cons c taken ih =>
    obtain ⟨first, others⟩ := List.forall_mem_cons.1 plain
    rw [List.cons_append, cuts_cons first.1 first.2, ih others]

theorem cuts_eq_zero (cs : List Char) :
    cuts cs = 0 ↔ ∀ before c r, cs = before ++ c :: r → goesOn c r = false := by
  constructor
  · rintro none before c r rfl
    induction before with
    | nil =>
      cases h : goesOn c r with
      | false => rfl
      | true => simp [cuts, h] at none
    | cons d before ih => exact ih (Nat.eq_zero_of_add_eq_zero_right none)
  · intro none
    induction cs with
    | nil => rfl
    | cons c r ih =>
      have others := ih fun before d s h => none (c :: before) d s (congrArg (c :: ·) h)
      rw [cuts, others, none [] c r rfl]
      rfl

/-- A text without quotes, slashes and backslashes. -/
def IsPlain (cs : List Char) : Prop := ∀ c ∈ cs, c ≠ '"' ∧ c ≠ '/' ∧ c ≠ '\\'

instance (cs : List Char) : Decidable (IsPlain cs) := List.decidableBAll _ cs

theorem IsPlain.tail {c : Char} {cs : List Char} (h : IsPlain (c :: cs)) : IsPlain cs :=
  fun d hd => h d (List.mem_cons_of_mem c hd)

theorem IsPlain.append {taken rest : List Char} (h : IsPlain (taken ++ rest)) : IsPlain rest :=
  fun d hd => h d (List.mem_append_right taken hd)

theorem IsPlain.ne_quote {cs : List Char} (h : IsPlain cs) (r : List Char) : cs ≠ '"' :: r := by
  rintro rfl
  exact (h '"' List.mem_cons_self).1 rfl

theorem IsPlain.ne_slash {cs : List Char} (h : IsPlain cs) (r : List Char) : cs ≠ '/' :: r := by
  rintro rfl
  exact (h '/' List.mem_cons_self).2.1 rfl

/-- A text is part of a word and then the rest, with so many more places inside words. -/
structure Takes (cs rest : List Char) (n : Nat) : Prop where
  within : ∃ taken, cs = taken ++ rest ∧ ∀ c ∈ taken, isBlank c = false
  cuts : cuts cs = cuts rest + n

namespace Takes
variable {cs mid rest : List Char} {m n : Nat}

theorem refl (cs : List Char) : Takes cs cs 0 where
  within := by
    refine ⟨[], rfl, fun c hc => ?_⟩
    cases hc
  cuts := rfl

theorem trans (first : Takes cs mid m) (second : Takes mid rest n) : Takes cs rest (n + m) where
  within := by
    obtain ⟨taken, rfl, dark⟩ := first.within
    obtain ⟨taken', rfl, dark'⟩ := second.within
    refine ⟨taken ++ taken', (List.append_assoc ..).symm, fun c hc => ?_⟩
    rcases List.mem_append.1 hc with hc | hc
    · exact dark c hc
    · exact dark' c hc
  cuts := by
    have h₁ := first.cuts
    have h₂ := second.cuts
    omega

theorem plain (h : Takes cs rest n) (plain : IsPlain cs) : IsPlain rest := by
  obtain ⟨taken, rfl, -⟩ := h.within
  exact plain.append

theorem append {taken : List Char}
    (h : ∀ c ∈ taken, isBlank c = false ∧ c ≠ '^' ∧ c ≠ '~') (rest : List Char) :
    Takes (taken ++ rest) rest 0 where
  within := ⟨taken, rfl, fun c hc => (h c hc).1⟩
  cuts := cuts_append (fun c hc => (h c hc).2) rest

theorem one {c : Char} (h : isBlank c = false ∧ c ≠ '^' ∧ c ≠ '~') (rest : List Char) :
    Takes (c :: rest) rest 0 := by
  have each : ∀ d ∈ [c], isBlank d = false ∧ d ≠ '^' ∧ d ≠ '~' := by simpa using h
  exact append each rest

end Takes

def CanBegin (cs : List Char) : Prop := ∀ d ∈ cs.head?, d ≠ ':' ∧ d ≠ '~'

def TakesAtom (p : Parsed Query) (cs : List Char) : Prop :=
  ∀ q k, p = .ok (q, k) → CanBegin k.rest → Takes cs k.rest (isBeyond k.rest).toNat

namespace TakesAtom
variable {cs mid : List Char}

theorem error (e : Fault) (cs : List Char) : TakesAtom (.error e) cs := by
  intro q k h
  cases h

theorem after {p : Parsed Query} (first : Takes cs mid 0) (h : TakesAtom p mid) :
    TakesAtom p cs := by
  intro q k read clear
  have second := h q k read clear
  exact first.trans second

end TakesAtom

section Parsers
variable {cs : List Char}

theorem word_takes (plain : IsPlain cs) (offset : Nat) :
    Takes cs (wordFrom offset cs).2.rest 0 ∧
      ∀ d ∈ (wordFrom offset cs).2.rest.head?, endsWord d = true := by
  fun_induction wordFrom offset cs with
  | case1 => exact ⟨.refl [], by simp⟩
  | case2 => exact absurd rfl (plain '\\' List.mem_cons_self).2.2
  | case3 => exact absurd rfl (plain '\\' List.mem_cons_self).2.2
  | case4 offset c r backslash ends => exact ⟨.refl _, by simpa using ends⟩
  | case5 offset c r backslash inside word cursor read ih =>
    obtain ⟨takes, ends⟩ := ih plain.tail
    rw [read] at takes ends
    have letter : isBlank c = false ∧ c ≠ '^' ∧ c ≠ '~' := by
      simp only [endsWord, Bool.or_eq_true, beq_iff_eq, not_or, Bool.not_eq_true] at inside
      exact ⟨inside.2, inside.1.1.1.2, inside.1.1.2⟩
    exact ⟨(Takes.one letter r).trans takes, ends⟩

theorem isBeyond_of_endsWord (plain : IsPlain cs) (ends : ∀ d ∈ cs.head?, endsWord d = true)
    (clear : CanBegin cs) : isBeyond cs = false := by
  cases cs with
  | nil => rfl
  | cons d r =>
    have stop := ends d rfl
    have begins := clear d rfl
    have quote := (plain d List.mem_cons_self).1
    simp only [endsWord, Bool.or_eq_true, beq_iff_eq, begins.1, begins.2, quote, false_or,
      or_false] at stop
    rcases stop with rfl | blank
    · rfl
    · simp [isBeyond, blank]

theorem numeral_takes (cs : List Char) : Takes cs (cs.dropWhile isNumeralChar) 0 := by
  have digit {c : Char} (h : isNumeralChar c = true) :
      isBlank c = false ∧ c ≠ '^' ∧ c ≠ '~' := by
    refine ⟨?_, ?_, ?_⟩
    · cases blank : isBlank c with
      | false => rfl
      | true =>
        rw [isNumeralChar_of_isBlank blank] at h
        cases h
    · rintro rfl
      exact absurd h (by decide)
    · rintro rfl
      exact absurd h (by decide)
  have each : ∀ c ∈ cs.takeWhile isNumeralChar, isBlank c = false ∧ c ≠ '^' ∧ c ≠ '~' :=
    fun c hc => digit (List.mem_takeWhile_imp hc)
  have taken := Takes.append each (cs.dropWhile isNumeralChar)
  rwa [List.takeWhile_append_dropWhile] at taken

theorem edits_rest {offset : Nat} {f : Fuzziness} {k : Cursor}
    (h : parseEdits ⟨offset, cs⟩ = .ok (f, k)) : k.rest = cs.dropWhile isNumeralChar := by
  unfold parseEdits at h
  simp only at h
  split at h
  · cases h
    rfl
  · split at h
    · cases h
      rfl
    · cases h

theorem text_takes (field : String) (word : List Char) (plain : IsPlain cs)
    (ends : ∀ d ∈ cs.head?, endsWord d = true) (offset : Nat) :
    TakesAtom (parseText field word ⟨offset, cs⟩) cs := by
  intro q k read clear
  by_cases tilde : ∃ r, cs = '~' :: r
  · obtain ⟨r, rfl⟩ := tilde
    obtain ⟨f, edits, -⟩ := Parsed.map_eq_ok.1 read
    have digits := numeral_takes r
    have opened : Takes ('~' :: r) r (goesOn '~' r).toNat := by
      refine ⟨⟨['~'], rfl, ?_⟩, rfl⟩
      simp only [List.mem_singleton, forall_eq]
      decide
    have taken := opened.trans digits
    rw [edits_rest edits]
    have same : goesOn '~' r = isBeyond (r.dropWhile isNumeralChar) := by simp [goesOn]
    rwa [same, Nat.zero_add] at taken
  · rw [parseText_bare field word fun r h => tilde ⟨r, h⟩] at read
    cases read
    have whole : isBeyond cs = false := isBeyond_of_endsWord plain ends clear
    simpa [whole] using Takes.refl cs

theorem operand_takes (field : String) (lower inclusive : Bool) (plain : IsPlain cs)
    (offset : Nat) : TakesAtom (parseOperand field lower inclusive ⟨offset, cs⟩) cs := by
  intro q k read clear
  obtain ⟨taken, ends⟩ := word_takes plain offset
  rw [parseOperand_number field lower inclusive plain.ne_quote, numberRange] at read
  split at read
  · cases read
    have whole := isBeyond_of_endsWord (taken.plain plain) ends clear
    change Takes cs (wordFrom offset cs).2.rest (isBeyond (wordFrom offset cs).2.rest).toNat
    rw [whole]
    exact taken
  · cases read

theorem comparison_takes (field : String) (lower : Bool) (plain : IsPlain cs) (offset : Nat) :
    TakesAtom (parseComparison field lower ⟨offset, cs⟩) cs := by
  by_cases equals : ∃ r, cs = '=' :: r
  · obtain ⟨r, rfl⟩ := equals
    exact .after (.one (by decide) r) (operand_takes field lower true plain.tail (offset + 1))
  · rw [parseComparison_strict field lower fun r h => equals ⟨r, h⟩]
    exact operand_takes field lower false plain offset

theorem value_takes (field : String) (plain : IsPlain cs) (offset : Nat) :
    TakesAtom (parseValue field ⟨offset, cs⟩) cs := by
  by_cases none : cs = []
  · subst none
    exact .error _ []
  by_cases above : ∃ r, cs = '>' :: r
  · obtain ⟨r, rfl⟩ := above
    exact .after (.one (by decide) r) (comparison_takes field true plain.tail (offset + 1))
  by_cases below : ∃ r, cs = '<' :: r
  · obtain ⟨r, rfl⟩ := below
    exact .after (.one (by decide) r) (comparison_takes field false plain.tail (offset + 1))
  rw [parseValue_bare field none plain.ne_quote plain.ne_slash (fun r h => above ⟨r, h⟩)
    (fun r h => below ⟨r, h⟩)]
  obtain ⟨taken, ends⟩ := word_takes plain offset
  split
  · exact .error _ cs
  · exact .after taken (text_takes field _ (taken.plain plain) ends _)

theorem behindWord_takes (word : List Char) (plain : IsPlain cs)
    (ends : ∀ d ∈ cs.head?, endsWord d = true) (start offset : Nat) :
    TakesAtom (behindWord word start ⟨offset, cs⟩) cs := by
  unfold behindWord
  split
  · rename_i r colon
    obtain rfl : cs = ':' :: r := colon
    split
    · exact .error _ _
    · exact .after (.one (by decide) r) (value_takes _ plain.tail (offset + 1))
  · split
    · exact .error _ _
    · exact text_takes "" word plain ends offset

theorem atom_takes (plain : IsPlain cs) (offset : Nat) :
    TakesAtom (parseAtom ⟨offset, cs⟩) cs := by
  rw [parseAtom_bare plain.ne_quote plain.ne_slash]
  obtain ⟨taken, ends⟩ := word_takes plain offset
  exact .after taken (behindWord_takes _ (taken.plain plain) ends _ _)

theorem boost_rest {p q : Query} {offset : Nat} {r : List Char} {k : Cursor}
    (h : parseBoost p ⟨offset, '^' :: r⟩ = .ok (q, k)) : k.rest = r.dropWhile isNumeralChar := by
  unfold parseBoost at h
  simp only at h
  split at h
  · split at h
    · cases h
      rfl
    · cases h
  · cases h

theorem body_takes (plain : IsPlain cs) {offset : Nat} {q : Query} {k : Cursor}
    (h : parseBody ⟨offset, cs⟩ = .ok (q, k)) (clear : CanBegin k.rest) :
    Takes cs k.rest (isAhead k.rest).toNat := by
  unfold parseBody at h
  split at h
  · rename_i p j atom
    have before := atom_takes plain offset p j atom
    by_cases boost : ∃ r, j.rest = '^' :: r
    · obtain ⟨r, caret⟩ := boost
      have boosted : parseBoost p ⟨j.offset, '^' :: r⟩ = .ok (q, k) := caret ▸ h
      have begins : CanBegin ('^' :: r) := by
        intro d hd
        obtain rfl : '^' = d := Option.some.inj hd
        decide
      rw [caret] at before
      have opened : Takes ('^' :: r) r (goesOn '^' r).toNat := by
        refine ⟨⟨['^'], rfl, ?_⟩, rfl⟩
        simp only [List.mem_singleton, forall_eq]
        decide
      have taken := ((before begins).trans opened).trans (numeral_takes r)
      have same : goesOn '^' r = isAhead (r.dropWhile isNumeralChar) := by simp [goesOn]
      rw [same] at taken
      rw [boost_rest boosted]
      simpa [isBeyond] using taken
    · have bare : ∀ r, j.rest ≠ '^' :: r := fun r caret => boost ⟨r, caret⟩
      have unboosted : (Except.ok (p, j) : Parsed Query) = .ok (q, k) :=
        (parseBoost_bare p bare j.offset).symm.trans h
      cases unboosted
      have same : isAhead k.rest = isBeyond k.rest := by
        cases rest : k.rest with
        | nil => rfl
        | cons d r =>
          have other : d ≠ '^' := by
            rintro rfl
            exact bare r rest
          simp [isAhead, isBeyond, other]
      rw [same]
      exact before clear
  · cases h

theorem signed_takes (plain : IsPlain cs) {sign : String} {start offset : Nat} {q : Query}
    {k : Cursor} (h : parseSigned sign start ⟨offset, cs⟩ = .ok (q, k))
    (clear : CanBegin k.rest) : Takes cs k.rest (isAhead k.rest).toNat := by
  unfold parseSigned at h
  split at h
  · cases h
  · split at h
    · cases h
    · exact body_takes plain h clear

/-- A clause takes part of a word; if the word goes on, that is behind a number. -/
theorem clause_takes (plain : IsPlain cs) {offset : Nat} {clause : Occur × Query} {k : Cursor}
    (h : parseClause ⟨offset, cs⟩ = .ok (clause, k)) (clear : CanBegin k.rest) :
    Takes cs k.rest (isAhead k.rest).toNat := by
  by_cases plus : ∃ r, cs = '+' :: r
  · obtain ⟨r, rfl⟩ := plus
    obtain ⟨q, signed, -⟩ := Parsed.map_eq_ok.1 h
    exact (Takes.one (by decide) r).trans (signed_takes plain.tail signed clear)
  by_cases minus : ∃ r, cs = '-' :: r
  · obtain ⟨r, rfl⟩ := minus
    obtain ⟨q, signed, -⟩ := Parsed.map_eq_ok.1 h
    exact (Takes.one (by decide) r).trans (signed_takes plain.tail signed clear)
  rw [parseClause_unsigned (fun r h => plus ⟨r, h⟩) (fun r h => minus ⟨r, h⟩)] at h
  obtain ⟨q, body, -⟩ := Parsed.map_eq_ok.1 h
  exact body_takes plain body clear

theorem parseClause_stuck {d : Char} (h : d = ':' ∨ d = '~') (offset : Nat) (r : List Char) :
    ∃ e, parseClause ⟨offset, d :: r⟩ = .error e := by
  have ends : endsWord d = true := by
    rcases h with rfl | rfl
    · rfl
    · rfl
  have word : Cursor.word ⟨offset, d :: r⟩ = ([], ⟨offset, d :: r⟩) :=
    wordFrom_stop (by simpa) offset
  have other {a : Char} (ha : endsWord a = false) (s : List Char) : d :: r ≠ a :: s := by
    rintro same
    obtain ⟨rfl, -⟩ := List.cons.inj same
    rw [ends] at ha
    cases ha
  have quote (s : List Char) : d :: r ≠ '"' :: s := by
    intro same
    obtain ⟨rfl, -⟩ := List.cons.inj same
    revert h
    decide
  have atom : ∃ e, parseAtom ⟨offset, d :: r⟩ = .error e := by
    rw [parseAtom_bare quote (other (by decide)), word]
    rcases h with rfl | rfl
    · exact ⟨_, rfl⟩
    · exact ⟨_, rfl⟩
  obtain ⟨e, atom⟩ := atom
  refine ⟨e, ?_⟩
  rw [parseClause_unsigned (other (by decide)) (other (by decide)), parseBody, atom]
  rfl

end Parsers

theorem skipBlank_words (offset : Nat) (cs : List Char) :
    wordsOf (blankFrom offset cs).rest = wordsOf cs ∧
      cuts (blankFrom offset cs).rest = cuts cs ∧
      (IsPlain cs → IsPlain (blankFrom offset cs).rest) := by
  fun_induction blankFrom offset cs with
  | case1 => exact ⟨rfl, rfl, id⟩
  | case2 offset c r blank ih =>
    obtain ⟨words, places, plain⟩ := ih
    have boost : c ≠ '^' := by
      rintro rfl
      exact absurd blank (by decide)
    have edits : c ≠ '~' := by
      rintro rfl
      exact absurd blank (by decide)
    exact ⟨words.trans (wordsOf_blank blank r).symm, places.trans (cuts_cons boost edits r).symm,
      fun h => plain h.tail⟩
  | case3 => exact ⟨rfl, rfl, id⟩

theorem canBegin_of_parseClauses {c : Cursor} {clauses : List (Occur × Query)}
    (h : parseClauses c = .ok clauses) : CanBegin c.rest := by
  intro d hd
  refine not_or.1 fun stuck => ?_
  obtain ⟨offset, rest⟩ := c
  cases rest with
  | nil => cases hd
  | cons d' r =>
    obtain rfl : d' = d := Option.some.inj hd
    have dark : ¬isBlank d' = true := by
      rcases stuck with rfl | rfl
      · decide
      · decide
    have here : Cursor.skipBlank ⟨offset, d' :: r⟩ = ⟨offset, d' :: r⟩ := if_neg dark
    obtain ⟨e, fails⟩ := parseClause_stuck stuck offset r
    rw [parseClauses.eq_def, here] at h
    simp only [List.isEmpty_cons, Bool.false_eq_true, if_false] at h
    split at h
    · cases h
    · rename_i read
      rw [fails] at read
      cases read

theorem parseClauses_words {c : Cursor} {clauses : List (Occur × Query)} (plain : IsPlain c.rest)
    (h : parseClauses c = .ok clauses) :
    clauses.length = (wordsOf c.rest).length + cuts c.rest := by
  -- By the clauses: each adds a word, unless the word it is in goes on, and then it adds a place.
  fun_induction parseClauses c generalizing clauses with
  | case1 c k =>
    rename_i empty
    cases h
    obtain ⟨words, places, -⟩ := skipBlank_words c.offset c.rest
    have none : (blankFrom c.offset c.rest).rest = [] := List.isEmpty_iff.1 empty
    rw [← words, ← places, none]
    rfl
  | case2 => cases h
  | case3 c k more clause k' =>
    rename_i first ih
    obtain ⟨others, read, rfl⟩ := map_eq_ok.1 h
    obtain ⟨words, places, plain'⟩ := skipBlank_words c.offset c.rest
    have taken : Takes k.rest k'.rest _ :=
      clause_takes (plain' plain) first (canBegin_of_parseClauses read)
    have rest := ih (taken.plain (plain' plain)) read
    have shorter := parseClause_length first
    obtain ⟨chars, split, dark⟩ := taken.within
    have some : chars ≠ [] := by
      rintro rfl
      rw [split] at shorter
      exact Nat.lt_irrefl _ shorter
    have counted := wordsOf_append (r := k'.rest) some dark
    have found := taken.cuts
    change wordsOf k.rest = _ at words
    change cuts k.rest = _ at places
    rw [← split, words] at counted
    rw [places] at found
    rw [List.length_cons]
    omega

/-- The number of clauses that the tree of a query string has. -/
def clauseCount (q : Query) : Nat :=
  (clausesIn .must q).length + (clausesIn .should q).length + (clausesIn .mustNot q).length

theorem clauseCount_assemble (clauses : List (Occur × Query)) :
    clauseCount (assemble clauses) = clauses.length := by
  simp only [clauseCount, clausesIn_assemble]
  induction clauses with
  | nil => rfl
  | cons clause clauses ih =>
    obtain ⟨occur, q⟩ := clause
    cases occur with
    | must => simp [clausesOf] at ih ⊢; omega
    | should => simp [clausesOf] at ih ⊢; omega
    | mustNot => simp [clausesOf] at ih ⊢; omega

end SearchQuery.Grammar

namespace SearchQuery
open Grammar

/-- A query string without quotes, slashes and backslashes has one clause for each word and one for
each place where a word goes on behind the number of a boost or of edits; so it has as many clauses
as words if and only if no word does. -/
theorem parse_words {text : String} {q : Query} (plain : IsPlain text.toList)
    (h : parseQueryString text = .ok q) :
    clauseCount q = (wordsOf text.toList).length + cuts text.toList ∧
      (clauseCount q = (wordsOf text.toList).length ↔
        ∀ before c r, text.toList = before ++ c :: r → goesOn c r = false) := by
  obtain ⟨clauses, read, rfl⟩ := parseQueryString_eq_ok.1 h
  have count : clauseCount (assemble clauses) = (wordsOf text.toList).length + cuts text.toList :=
    (clauseCount_assemble clauses).trans (parseClauses_words plain read)
  refine ⟨count, ?_⟩
  rw [count, ← cuts_eq_zero]
  omega

theorem parse_words_edits :
    let go : Query := .onField (.text "go" none none (some (.edits 2)) none) "" none
    let x : Query := .onField (.text "x" none none none none) "" none
    let b : Query := .onField (.text "b" none none none none) "" none
    let q : Query := .boolean none (some (.disjunction [go, x] (some 1) none))
      (some (.disjunction [b] none none)) none
    parseQueryString "go~2x -b" = .ok q ∧ IsPlain "go~2x -b".toList ∧
      clauseCount q = (wordsOf "go~2x -b".toList).length + cuts "go~2x -b".toList ∧
      (clauseCount q = (wordsOf "go~2x -b".toList).length ↔
        ∀ before c r, "go~2x -b".toList = before ++ c :: r → goesOn c r = false) := by
  intro go x b q
  have clause₁ : parseClause (Cursor.skipBlank ⟨0, ['g', 'o', '~', '2', 'x', ' ', '-', 'b']⟩) =
      .ok ((.should, go), ⟨4, ['x', ' ', '-', 'b']⟩) := rfl
  have clause₂ : parseClause (Cursor.skipBlank ⟨4, ['x', ' ', '-', 'b']⟩) =
      .ok ((.should, x), ⟨5, [' ', '-', 'b']⟩) := rfl
  have clause₃ : parseClause (Cursor.skipBlank ⟨5, [' ', '-', 'b']⟩) =
      .ok ((.mustNot, b), ⟨8, []⟩) := rfl
  have clauses : parseClauses ⟨0, "go~2x -b".toList⟩ =
      .ok [(.should, go), (.should, x), (.mustNot, b)] := by
    refine (parseClauses_cons clause₁).trans ?_
    rw [parseClauses_cons clause₂, parseClauses_cons clause₃, parseClauses_nil rfl]
    rfl
  have read : parseQueryString "go~2x -b" = .ok q := parseQueryString_eq_ok.2 ⟨_, clauses, rfl⟩
  have plain : IsPlain "go~2x -b".toList := by decide
  exact ⟨read, plain, parse_words plain read⟩

/-- A word that goes on behind a boost is two clauses. -/
theorem parse_splits_word :
    IsPlain "rust^2go".toList ∧ wordsOf "rust^2go".toList = ["rust^2go".toList] ∧
      ∃ q, parseQueryString "rust^2go" = .ok q ∧ clauseCount q = 2 := by
  refine ⟨by decide, rfl, ?_⟩
  have clause₁ : ∃ q, parseClause
      (Cursor.skipBlank ⟨0, ['r', 'u', 's', 't', '^', '2', 'g', 'o']⟩) =
        .ok ((.should, q), ⟨6, ['g', 'o']⟩) := ⟨_, rfl⟩
  have clause₂ : ∃ q, parseClause (Cursor.skipBlank ⟨6, ['g', 'o']⟩) =
      .ok ((.should, q), ⟨8, []⟩) := ⟨_, rfl⟩
  obtain ⟨rust, clause₁⟩ := clause₁
  obtain ⟨go, clause₂⟩ := clause₂
  have clauses : parseClauses ⟨0, "rust^2go".toList⟩ = .ok [(.should, rust), (.should, go)] := by
    refine (parseClauses_cons clause₁).trans ?_
    rw [parseClauses_cons clause₂, parseClauses_nil rfl]
    rfl
  exact ⟨_, parseQueryString_eq_ok.2 ⟨_, clauses, rfl⟩, clauseCount_assemble _⟩

end SearchQuery
