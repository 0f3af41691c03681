import SearchQuery.Proofs.Query.Notation

/-!
# The parser inverts the notation

Each part of the parser reads the part of the notation that is meant for it and stops where the
notation goes on.  Main statement: a text of clauses is parsed to the tree that they denote.
-/

set_option autoImplicit false
namespace SearchQuery.Grammar
open Cursor

/-- A parser reads a text off whatever follows it, from any offset on. -/
def Reads {α : Type} (p : Cursor → Parsed α) (text : List Char) (x : α) (rest : List Char) : Prop :=
  ∀ offset, ∃ offset', p ⟨offset, text ++ rest⟩ = .ok (x, ⟨offset', rest⟩)

theorem Reads.map {α β : Type} {p : Cursor → Parsed α} {text rest : List Char} {x : α}
    (h : Reads p text x rest) (f : α → β) :
    Reads (fun c => (p c).map f) text (f x) rest := by
  intro offset
  obtain ⟨offset', read⟩ := h offset
  refine ⟨offset', ?_⟩
  dsimp only
  rw [read]
  rfl

def EndsAtom (rest : List Char) : Prop := ∀ c ∈ rest.head?, c = '^' ∨ isBlank c = true

def EndsClause (rest : List Char) : Prop := ∀ c ∈ rest.head?, isBlank c = true

theorem EndsClause.atom {rest : List Char} (h : EndsClause rest) : EndsAtom rest :=
  fun c hc => .inr (h c hc)

theorem not_isBlank {c : Char} (h : c ∈ ['\\', '"', '/', '+', '-']) : isBlank c = false := by
  simp only [List.mem_cons, List.not_mem_nil, or_false] at h
  rcases h with rfl | rfl | rfl | rfl | rfl
  all_goals decide

theorem isNumeralChar_of_isBlank {c : Char} (h : isBlank c = true) : isNumeralChar c = false := by
  cases digit : isNumeralChar c with
  | false => rfl
  | true =>
    exfalso
    rw [isNumeralChar, Bool.or_eq_true, beq_iff_eq] at digit
    rcases digit with digit | rfl
    · rw [Decimal.isDigit, Bool.and_eq_true, decide_eq_true_iff, decide_eq_true_iff] at digit
      have low : 48 ≤ c.toNat := digit.1
      have high : c.toNat ≤ 57 := digit.2
      simp [isBlank, CodePoints.contains, whiteSpace] at h
      omega
    · exact absurd h (by decide)

theorem EndsAtom.endsWord {rest : List Char} (h : EndsAtom rest) :
    ∀ c ∈ rest.head?, endsWord c = true := by
  intro c hc
  rcases h c hc with rfl | blank
  · rfl
  · rw [Cursor.endsWord, blank, Bool.or_true]

theorem EndsAtom.ne_tilde {rest : List Char} (h : EndsAtom rest) : ∀ r, rest ≠ '~' :: r := by
  rintro r rfl
  rcases h '~' rfl with same | blank
  · exact absurd same (by decide)
  · exact absurd blank (by decide)

theorem EndsAtom.not_numeral {rest : List Char} (h : EndsAtom rest) :
    ∀ c ∈ rest.head?, isNumeralChar c = false := by
  intro c hc
  rcases h c hc with rfl | blank
  · rfl
  · exact isNumeralChar_of_isBlank blank

theorem wordFrom_stop {rest : List Char} (stop : ∀ c ∈ rest.head?, endsWord c = true)
    (offset : Nat) : wordFrom offset rest = ([], ⟨offset, rest⟩) := by
  cases rest with
  | nil => rfl
  | cons c r =>
    have ends := stop c rfl
    have other : c ≠ '\\' := by
      rintro rfl
      exact absurd ends (by decide)
    rw [wordFrom.eq_def]
    simp only [if_neg other, ends, if_true]

theorem wordFrom_escaped {rest : List Char} (stop : ∀ c ∈ rest.head?, endsWord c = true)
    (cs : List Char) (offset : Nat) : ∃ offset',
      wordFrom offset (cs.flatMap (fun c => ['\\', c]) ++ rest) = (cs, ⟨offset', rest⟩) := by
  induction cs generalizing offset with
  | nil => exact ⟨offset, wordFrom_stop stop offset⟩
  | cons c cs ih =>
    obtain ⟨offset', read⟩ := ih (offset + 1 + c.utf8Size)
    refine ⟨offset', ?_⟩
    rw [List.flatMap_cons, List.append_assoc, List.cons_append, List.cons_append, List.nil_append,
      wordFrom, if_pos rfl]
    dsimp only
    rw [read]

theorem wordFrom_plain {rest : List Char} (stop : ∀ c ∈ rest.head?, endsWord c = true)
    {cs : List Char} (plain : ∀ c ∈ cs, c ≠ '\\' ∧ endsWord c = false) (offset : Nat) : ∃ offset',
      wordFrom offset (cs ++ rest) = (cs, ⟨offset', rest⟩) := by
  induction cs generalizing offset with
  | nil => exact ⟨offset, wordFrom_stop stop offset⟩
  | cons c cs ih =>
    obtain ⟨⟨other, inside⟩, others⟩ := List.forall_mem_cons.1 plain
    obtain ⟨offset', read⟩ := ih others (offset + c.utf8Size)
    refine ⟨offset', ?_⟩
    rw [List.cons_append, wordFrom.eq_def]
    simp only [if_neg other, inside, Bool.false_eq_true, if_false]
    rw [read]

theorem quotedFrom_quote (offset : Nat) (r : List Char) :
    quotedFrom offset ('"' :: r) = some ([], ⟨offset + 1, r⟩) := by
  rw [quotedFrom.eq_def]
  exact if_pos rfl

theorem quotedFrom_escape (offset : Nat) (d : Char) (r : List Char) :
    quotedFrom offset ('\\' :: d :: r) =
      (quotedFrom (offset + 1 + d.utf8Size) r).map fun (t, k) => (d :: t, k) := by
  rw [quotedFrom, if_neg (by decide), if_pos rfl]

theorem quotedFrom_plain (offset : Nat) {c : Char} (r : List Char) (quote : c ≠ '"')
    (backslash : c ≠ '\\') : quotedFrom offset (c :: r) =
      (quotedFrom (offset + c.utf8Size) r).map fun (t, k) => (c :: t, k) := by
  rw [quotedFrom.eq_def]
  simp only [if_neg quote, if_neg backslash]

theorem quotedFrom_written (cs rest : List Char) (offset : Nat) : ∃ offset',
    quotedFrom offset (cs.flatMap quotedChar ++ '"' :: rest) = some (cs, ⟨offset', rest⟩) := by
  induction cs generalizing offset with
  | nil => exact ⟨offset + 1, quotedFrom_quote offset rest⟩
  | cons c cs ih =>
    rw [List.flatMap_cons, List.append_assoc, quotedChar]
    by_cases special : c = '"' ∨ c = '\\'
    · obtain ⟨offset', read⟩ := ih (offset + 1 + c.utf8Size)
      refine ⟨offset', ?_⟩
      rw [if_pos special, List.cons_append, List.singleton_append, quotedFrom_escape, read]
      rfl
    · obtain ⟨offset', read⟩ := ih (offset + c.utf8Size)
      obtain ⟨quote, backslash⟩ := not_or.1 special
      refine ⟨offset', ?_⟩
      rw [if_neg special, List.singleton_append, quotedFrom_plain _ _ quote backslash, read]
      rfl

theorem reads_quotes (text : String) (rest : List Char) :
    Reads parsePhrase (inQuotes text) text rest := by
  intro offset
  obtain ⟨offset', read⟩ := quotedFrom_written text.toList rest (offset + 1)
  refine ⟨offset', ?_⟩
  rw [inQuotes, List.append_assoc, List.cons_append, List.singleton_append, parsePhrase,
    List.drop_one, List.tail_cons, read, enclosed, String.ofList_toList]

theorem patternFrom_slash (offset : Nat) (r : List Char) :
    patternFrom offset ('/' :: r) = some ([], ⟨offset + 1, r⟩) := by
  rw [patternFrom.eq_def]
  exact if_pos rfl

theorem patternFrom_escape (offset : Nat) (d : Char) (r : List Char) :
    patternFrom offset ('\\' :: d :: r) = (patternFrom (offset + 1 + d.utf8Size) r).map
      fun (t, k) => (if d = '/' then d :: t else '\\' :: d :: t, k) := by
  rw [patternFrom, if_neg (by decide), if_pos rfl]

theorem patternFrom_plain (offset : Nat) {c : Char} (r : List Char) (slash : c ≠ '/')
    (backslash : c ≠ '\\') : patternFrom offset (c :: r) =
      (patternFrom (offset + c.utf8Size) r).map fun (t, k) => (c :: t, k) := by
  rw [patternFrom.eq_def]
  simp only [if_neg slash, if_neg backslash]

theorem patternFrom_written (parts : List PatternPart) (rest : List Char) (offset : Nat) :
    ∃ offset', patternFrom offset (parts.flatMap PatternPart.written ++ '/' :: rest) =
      some (parts.flatMap PatternPart.text, ⟨offset', rest⟩) := by
  induction parts generalizing offset with
  | nil => exact ⟨offset + 1, patternFrom_slash offset rest⟩
  | cons part parts ih =>
    rw [List.flatMap_cons, List.flatMap_cons, List.append_assoc]
    cases part with
    | plain c plain =>
      by_cases slash : c = '/'
      · obtain ⟨offset', read⟩ := ih (offset + 1 + '/'.utf8Size)
        refine ⟨offset', ?_⟩
        rw [PatternPart.written, if_pos slash, List.cons_append, List.singleton_append,
          patternFrom_escape, read, PatternPart.text, slash]
        rfl
      · obtain ⟨offset', read⟩ := ih (offset + c.utf8Size)
        refine ⟨offset', ?_⟩
        rw [PatternPart.written, if_neg slash, List.singleton_append,
          patternFrom_plain _ _ slash plain, read]
        rfl
    | pair c pair =>
      obtain ⟨offset', read⟩ := ih (offset + 1 + c.utf8Size)
      refine ⟨offset', ?_⟩
      rw [PatternPart.written, List.cons_append, List.singleton_append, patternFrom_escape, read,
        Option.map_some]
      dsimp only
      rw [if_neg pair]
      rfl

theorem reads_pattern (parts : List PatternPart) (rest : List Char) :
    Reads parsePattern ('/' :: parts.flatMap PatternPart.written ++ ['/'])
      (String.ofList (parts.flatMap PatternPart.text)) rest := by
  intro offset
  obtain ⟨offset', read⟩ := patternFrom_written parts rest (offset + 1)
  refine ⟨offset', ?_⟩
  rw [List.append_assoc, List.cons_append, List.singleton_append, parsePattern, List.drop_one,
    List.tail_cons, read, enclosed]

theorem reads_numeral {cs rest : List Char} (numeral : ∀ c ∈ cs, isNumeralChar c = true)
    (stop : ∀ c ∈ rest.head?, isNumeralChar c = false) (offset : Nat) : ∃ offset',
      Cursor.numeral ⟨offset, cs ++ rest⟩ = (String.ofList cs, ⟨offset', rest⟩) := by
  refine ⟨offset + cs.length, ?_⟩
  rw [Cursor.numeral, takeWhile_append_stop numeral stop, dropWhile_append_stop numeral stop]

theorem reads_edits (e : Edits) {rest : List Char} (ends : EndsAtom rest) :
    Reads parseEdits e.digits.text e.fuzziness rest := by
  have digits : ∀ c ∈ e.digits.text, Decimal.isDigit c = true :=
    fun c hc => Decimal.isDigit_of_mem_text hc
  have numeral : ∀ c ∈ e.digits.text, isNumeralChar c = true := by
    intro c hc
    rw [isNumeralChar, digits c hc, Bool.true_or]
  intro offset
  obtain ⟨offset', read⟩ := reads_numeral numeral ends.not_numeral offset
  refine ⟨offset', ?_⟩
  rw [parseEdits, read]
  dsimp only
  by_cases empty : e.digits = []
  · rw [Edits.fuzziness, if_pos empty, empty]
    rfl
  · have present : String.ofList e.digits.text ≠ "" := by
      intro none
      exact empty (List.map_eq_nil_iff.1 (String.ofList_inj.1 none))
    have present : (String.ofList e.digits.text).isEmpty = false := by
      rw [← Bool.not_eq_true, String.isEmpty_iff]
      exact present
    rw [present, String.toList_ofList, List.all_eq_true.2 digits, Decimal.digitsValue_text,
      Edits.fuzziness, if_neg empty, decide_eq_true e.small]
    rfl

section Clauses
variable {rest : List Char}

theorem ofList_toList_nonempty {text : String} (h : text ≠ "") : text.toList.isEmpty = false := by
  rw [List.isEmpty_eq_false_iff]
  intro empty
  exact h (String.toList_inj.1 empty)

theorem reads_escaped (text : String) (stop : ∀ c ∈ rest.head?, endsWord c = true) (offset : Nat) :
    ∃ offset', Cursor.word ⟨offset, escaped text ++ rest⟩ = (text.toList, ⟨offset', rest⟩) :=
  wordFrom_escaped stop text.toList offset

theorem reads_text (field text : String) (edits : Option Edits) (ends : EndsAtom rest) :
    Reads (parseText field text.toList) (Atom.writtenEdits edits)
      (.onField (.text text none none (edits.map Edits.fuzziness) none) field none) rest := by
  intro offset
  cases edits with
  | none =>
    refine ⟨offset, ?_⟩
    rw [Atom.writtenEdits, List.nil_append, parseText]
    split
    · rename_i tilde
      exact absurd tilde (ends.ne_tilde _)
    · rw [String.ofList_toList]
      rfl
  | some e =>
    obtain ⟨offset', read⟩ := reads_edits e ends (offset + 1)
    refine ⟨offset', ?_⟩
    change Parsed.map _ (parseEdits ⟨offset + 1, e.digits.text ++ rest⟩) = _
    rw [read, String.ofList_toList]
    rfl

theorem reads_word (field text : String) (edits : Option Edits) (ends : EndsAtom rest)
    (offset : Nat) : ∃ k offset',
      Cursor.word ⟨offset, escaped text ++ Atom.writtenEdits edits ++ rest⟩ = (text.toList, k) ∧
        (∀ r, k.rest ≠ ':' :: r) ∧ parseText field text.toList k =
          .ok (.onField (.text text none none (edits.map Edits.fuzziness) none) field none,
            ⟨offset', rest⟩) := by
  have stop : ∀ c ∈ (Atom.writtenEdits edits ++ rest).head?, endsWord c = true ∧ c ≠ ':' := by
    cases edits with
    | none =>
      intro c hc
      refine ⟨ends.endsWord c hc, ?_⟩
      rintro rfl
      rcases ends ':' hc with same | blank
      · exact absurd same (by decide)
      · exact absurd blank (by decide)
    | some e =>
      rintro c ⟨⟩
      decide
  obtain ⟨offset₁, word⟩ := reads_escaped text (fun c hc => (stop c hc).1) offset
  obtain ⟨offset₂, read⟩ := reads_text field text edits ends offset₁
  refine ⟨_, offset₂, by rw [List.append_assoc]; exact word, ?_, read⟩
  rintro r colon
  have colon : Atom.writtenEdits edits ++ rest = ':' :: r := colon
  exact (stop ':' (by rw [colon]; rfl)).2 rfl

theorem number_isPlain {n : Decimal.SignedNumeral} {c : Char} (h : c ∈ n.text) :
    (c ≠ '\\' ∧ endsWord c = false) ∧ c ≠ '"' ∧ c ≠ '=' := by
  rcases Decimal.SignedNumeral.mem_text h with digit | other
  · have inside : endsWord c = false := by
      have blank : isBlank c = false := by
        cases blank : isBlank c with
        | false => rfl
        | true =>
          have other := isNumeralChar_of_isBlank blank
          rw [isNumeralChar, digit] at other
          cases other
      have symbols : c ≠ ':' ∧ c ≠ '^' ∧ c ≠ '~' ∧ c ≠ '"' := by
        refine ⟨?_, ?_, ?_, ?_⟩
        all_goals
          rintro rfl
          exact absurd digit (by decide)
      simp only [endsWord, blank, beq_eq_false_iff_ne.2 symbols.1,
        beq_eq_false_iff_ne.2 symbols.2.1,
        beq_eq_false_iff_ne.2 symbols.2.2.1, beq_eq_false_iff_ne.2 symbols.2.2.2, Bool.or_self]
    refine ⟨⟨?_, inside⟩, ?_, ?_⟩
    all_goals
      rintro rfl
      exact absurd digit (by decide)
  · simp only [List.mem_cons, List.not_mem_nil, or_false] at other
    rcases other with rfl | rfl | rfl | rfl | rfl
    all_goals decide

theorem reads_operand (field : String) (c : Comparison) (lower inclusive : Bool) (operand : Operand)
    (same : ∀ {α : Type} (x : α), halfRange lower inclusive x = c.bounds x) (ends : EndsAtom rest) :
    Reads (parseOperand field lower inclusive) operand.written
      (.onField (operand.criterion c) field none) rest := by
  intro offset
  cases operand with
  | date text =>
    obtain ⟨offset', read⟩ := reads_quotes text rest offset
    refine ⟨offset', ?_⟩
    change Parsed.map _ (parsePhrase ⟨offset, inQuotes text ++ rest⟩) = _
    rw [read, Operand.criterion, ← same]
    rfl
  | number n =>
    obtain ⟨offset', word⟩ := wordFrom_plain ends.endsWord
      (fun c hc => (number_isPlain (n := n) hc).1) offset
    refine ⟨offset', ?_⟩
    have quote : ∀ r, n.text ++ rest ≠ '"' :: r := by
      intro r
      cases written : n.text with
      | nil => exact absurd written n.text_ne_nil
      | cons c cs =>
        intro first
        have plain := number_isPlain (n := n) (c := c) (by rw [written]; exact List.mem_cons_self)
        exact plain.2.1 (List.cons.inj first).1
    rw [Operand.written, parseOperand]
    split
    · rename_i first
      exact absurd first (quote _)
    · rw [Cursor.word]
      dsimp only
      rw [word]
      dsimp only
      rw [n.read_text, Operand.criterion]
      dsimp only
      rw [same]

theorem parseComparison_strict (field : String) (lower : Bool) {r : List Char}
    (h : ∀ s, r ≠ '=' :: s) (offset : Nat) :
    parseComparison field lower ⟨offset, r⟩ = parseOperand field lower false ⟨offset, r⟩ := by
  unfold parseComparison
  split
  · rename_i same
    exact absurd same (h _)
  · rfl

theorem operand_ne_equals (operand : Operand) (rest s : List Char) :
    operand.written ++ rest ≠ '=' :: s := by
  cases operand with
  | date text =>
    intro first
    exact absurd (List.cons.inj first).1 (by decide)
  | number n =>
    change n.text ++ rest ≠ '=' :: s
    cases written : n.text with
    | nil => exact absurd written n.text_ne_nil
    | cons c cs =>
      intro first
      have plain := number_isPlain (n := n) (c := c) (by rw [written]; exact List.mem_cons_self)
      exact plain.2.2 (List.cons.inj first).1

theorem reads_comparison (field : String) (c : Comparison) (operand : Operand)
    (ends : EndsAtom rest) :
    Reads (parseValue field) (c.written ++ operand.written)
      (.onField (operand.criterion c) field none) rest := by
  have strict := operand_ne_equals operand rest
  intro offset
  rw [List.append_assoc]
  cases c with
  | above =>
    obtain ⟨offset', read⟩ :=
      reads_operand field .above true false operand (fun _ => rfl) ends (offset + 1)
    refine ⟨offset', ?_⟩
    change parseComparison field true ⟨offset + 1, operand.written ++ rest⟩ = _
    rw [parseComparison_strict field true strict, read]
  | below =>
    obtain ⟨offset', read⟩ :=
      reads_operand field .below false false operand (fun _ => rfl) ends (offset + 1)
    refine ⟨offset', ?_⟩
    change parseComparison field false ⟨offset + 1, operand.written ++ rest⟩ = _
    rw [parseComparison_strict field false strict, read]
  | atLeast =>
    exact reads_operand field .atLeast true true operand (fun _ => rfl) ends (offset + 1 + 1)
  | atMost =>
    exact reads_operand field .atMost false true operand (fun _ => rfl) ends (offset + 1 + 1)

theorem escaped_cons {text : String} (h : text ≠ "") : ∃ r, escaped text = '\\' :: r := by
  rw [escaped]
  cases chars : text.toList with
  | nil => exact absurd (String.toList_inj.1 chars) h
  | cons c cs => exact ⟨_, rfl⟩

/-- Neither a value nor a clause that begins with a backslash is anything but a word. -/
theorem parseValue_word (field : String) (offset : Nat) (r : List Char) :
    parseValue field ⟨offset, '\\' :: r⟩ =
      if (Cursor.word ⟨offset, '\\' :: r⟩).1.isEmpty then .error (.missingValue field offset)
      else parseText field (Cursor.word ⟨offset, '\\' :: r⟩).1
        (Cursor.word ⟨offset, '\\' :: r⟩).2 :=
  rfl

theorem parseAtom_word (offset : Nat) (r : List Char) :
    parseAtom ⟨offset, '\\' :: r⟩ =
      match (Cursor.word ⟨offset, '\\' :: r⟩).2.rest with
      | ':' :: s =>
        if (Cursor.word ⟨offset, '\\' :: r⟩).1.isEmpty then .error (.emptyField offset)
        else parseValue (String.ofList (Cursor.word ⟨offset, '\\' :: r⟩).1)
          ⟨(Cursor.word ⟨offset, '\\' :: r⟩).2.offset + 1, s⟩
      | _ =>
        if (Cursor.word ⟨offset, '\\' :: r⟩).1.isEmpty then
          .error (.unexpected ((Cursor.word ⟨offset, '\\' :: r⟩).2.rest.headD ' ')
            (Cursor.word ⟨offset, '\\' :: r⟩).2.offset)
        else parseText "" (Cursor.word ⟨offset, '\\' :: r⟩).1
          (Cursor.word ⟨offset, '\\' :: r⟩).2 :=
  rfl

theorem reads_value (field : String) (atom : Atom) (ends : EndsAtom rest) :
    Reads (parseValue field) atom.written (.onField atom.criterion field none) rest := by
  cases atom with
  | word text nonempty edits =>
    intro offset
    obtain ⟨k, offset', word, -, read⟩ := reads_word field text edits ends offset
    refine ⟨offset', ?_⟩
    obtain ⟨r, first⟩ := escaped_cons nonempty
    rw [Atom.written]
    rw [first, List.cons_append, List.cons_append] at word ⊢
    rw [parseValue_word, word, ofList_toList_nonempty nonempty]
    exact read
  | phrase text => exact (reads_quotes text rest).map _
  | pattern parts => exact (reads_pattern parts rest).map _

theorem parseAtom_field {field : String} (nonempty : field ≠ "") (offset : Nat) (r : List Char) :
    ∃ offset', parseAtom ⟨offset, escaped field ++ ':' :: r⟩ = parseValue field ⟨offset', r⟩ := by
  have stop : ∀ c ∈ (':' :: r).head?, endsWord c = true := by
    rintro c ⟨⟩
    rfl
  obtain ⟨offset', word⟩ := reads_escaped field stop offset
  refine ⟨offset' + 1, ?_⟩
  obtain ⟨s, first⟩ := escaped_cons nonempty
  rw [first, List.cons_append] at word ⊢
  rw [parseAtom_word, word, ofList_toList_nonempty nonempty, String.ofList_toList]
  rfl

theorem reads_body (body : Body) (ends : EndsAtom rest) :
    Reads parseAtom body.written (body.query none) rest := by
  cases body with
  | within field nonempty atom =>
    intro offset
    rw [Body.written, List.append_assoc, List.cons_append]
    obtain ⟨offset₁, value⟩ := parseAtom_field nonempty offset (atom.written ++ rest)
    obtain ⟨offset₂, read⟩ := reads_value field atom ends offset₁
    exact ⟨offset₂, value.trans read⟩
  | comparison field nonempty c operand =>
    intro offset
    rw [Body.written, List.append_assoc, List.append_assoc, List.cons_append]
    obtain ⟨offset₁, value⟩ :=
      parseAtom_field nonempty offset (c.written ++ (operand.written ++ rest))
    obtain ⟨offset₂, read⟩ := reads_comparison field c operand ends offset₁
    rw [List.append_assoc] at read
    exact ⟨offset₂, value.trans read⟩
  | anywhere atom =>
    cases atom with
    | word text nonempty edits =>
      intro offset
      obtain ⟨k, offset', word, noColon, read⟩ := reads_word "" text edits ends offset
      refine ⟨offset', ?_⟩
      obtain ⟨r, first⟩ := escaped_cons nonempty
      rw [Body.written, Atom.written]
      rw [first, List.cons_append, List.cons_append] at word ⊢
      rw [parseAtom_word, word, ofList_toList_nonempty nonempty]
      dsimp only
      split
      · rename_i colon
        exact absurd colon (noColon _)
      · exact read
    | phrase text => exact (reads_quotes text rest).map _
    | pattern parts => exact (reads_pattern parts rest).map _

theorem query_setBoost (body : Body) (b : Float) :
    (body.query none).setBoost b = body.query (some b) := by
  cases body with
  | anywhere atom => rfl
  | within field nonempty atom => rfl
  | comparison field nonempty c operand => rfl

theorem reads_boost (body : Body) (boost : Option Boost) (ends : EndsClause rest) :
    Reads (parseBoost (body.query none)) (Clause.writtenBoost boost)
      (body.query (boost.map fun b => b.numeral.toFloat)) rest := by
  intro offset
  cases boost with
  | none =>
    refine ⟨offset, ?_⟩
    rw [Clause.writtenBoost, List.nil_append]
    unfold parseBoost
    split
    · rename_i caret
      have caret : rest = '^' :: _ := caret
      exact absurd (ends '^' (by rw [caret]; rfl)) (by decide)
    · rfl
  | some b =>
    have numeral : ∀ c ∈ b.numeral.text, isNumeralChar c = true := by
      intro c hc
      rcases b.numeral.mem_text hc with digit | rfl
      · rw [isNumeralChar, digit, Bool.true_or]
      · rfl
    have nonnegative : (0.0 : Float) ≤ b.numeral.toFloat :=
      Decimal.zero_le_of_hasPositiveSign (Decimal.nearest_hasPositiveSign _ _) b.finite
    obtain ⟨offset', read⟩ := reads_numeral numeral ends.atom.not_numeral (offset + 1)
    refine ⟨offset', ?_⟩
    rw [Clause.writtenBoost, List.cons_append]
    simp only [parseBoost, read, b.numeral.read_text, b.finite, decide_eq_true nonnegative,
      Bool.and_self, if_true, query_setBoost, Option.map_some]

theorem endsAtom_boost (boost : Option Boost) (ends : EndsClause rest) :
    EndsAtom (Clause.writtenBoost boost ++ rest) := by
  cases boost with
  | none => exact ends.atom
  | some b =>
    rintro c ⟨⟩
    exact .inl rfl

theorem reads_parseBody (c : Clause) (ends : EndsClause rest) :
    Reads parseBody (c.body.written ++ Clause.writtenBoost c.boost) c.query rest := by
  intro offset
  obtain ⟨offset₁, body⟩ := reads_body c.body (endsAtom_boost c.boost ends) offset
  obtain ⟨offset₂, boost⟩ := reads_boost c.body c.boost ends offset₁
  refine ⟨offset₂, ?_⟩
  rw [List.append_assoc, parseBody, body]
  exact boost

theorem body_cons (body : Body) :
    ∃ c r, body.written = c :: r ∧ (c = '\\' ∨ c = '"' ∨ c = '/') := by
  have escape {field : String} (nonempty : field ≠ "") (tail : List Char) :
      ∃ c r, escaped field ++ tail = c :: r ∧ (c = '\\' ∨ c = '"' ∨ c = '/') := by
    obtain ⟨r, first⟩ := escaped_cons nonempty
    exact ⟨'\\', r ++ tail, by rw [first, List.cons_append], .inl rfl⟩
  cases body with
  | within field nonempty atom => exact escape nonempty _
  | comparison field nonempty c operand =>
    rw [Body.written, List.append_assoc]
    exact escape nonempty _
  | anywhere atom =>
    cases atom with
    | word text nonempty edits => exact escape nonempty _
    | phrase text => exact ⟨'"', _, rfl, .inr (.inl rfl)⟩
    | pattern parts => exact ⟨'/', _, rfl, .inr (.inr rfl)⟩

theorem parseSigned_body (sign : String) (start : Nat) (c : Clause) (tail : List Char)
    (offset : Nat) : parseSigned sign start ⟨offset, c.body.written ++ tail⟩ =
      parseBody ⟨offset, c.body.written ++ tail⟩ := by
  obtain ⟨d, r, written, first⟩ := body_cons c.body
  have dark : isBlank d = false := by
    rcases first with rfl | rfl | rfl
    · exact not_isBlank (by decide)
    · exact not_isBlank (by decide)
    · exact not_isBlank (by decide)
  rw [written, List.cons_append, parseSigned]
  exact if_neg (by rw [dark]; exact Bool.false_ne_true)

theorem parseClause_unsigned {cs : List Char} (plus : ∀ r, cs ≠ '+' :: r)
    (minus : ∀ r, cs ≠ '-' :: r) (offset : Nat) :
    parseClause ⟨offset, cs⟩ = (parseBody ⟨offset, cs⟩).map fun q => (.should, q) := by
  unfold parseClause
  split
  · rename_i same
    exact absurd same (plus _)
  · rename_i same
    exact absurd same (minus _)
  · rfl

theorem reads_clause (c : Clause) (ends : EndsClause rest) :
    Reads parseClause c.written (c.occur, c.query) rest := by
  intro offset
  rw [Clause.written, List.append_assoc, List.append_assoc]
  cases occur : c.occur with
  | must =>
    obtain ⟨offset', read⟩ := reads_parseBody c ends (offset + 1)
    refine ⟨offset', ?_⟩
    rw [List.append_assoc] at read
    change Parsed.map _ (parseSigned "+" offset
      ⟨offset + 1, c.body.written ++ (Clause.writtenBoost c.boost ++ rest)⟩) = _
    rw [parseSigned_body, read]
    rfl
  | mustNot =>
    obtain ⟨offset', read⟩ := reads_parseBody c ends (offset + 1)
    refine ⟨offset', ?_⟩
    rw [List.append_assoc] at read
    change Parsed.map _ (parseSigned "-" offset
      ⟨offset + 1, c.body.written ++ (Clause.writtenBoost c.boost ++ rest)⟩) = _
    rw [parseSigned_body, read]
    rfl
  | should =>
    obtain ⟨offset', read⟩ := reads_parseBody c ends offset
    refine ⟨offset', ?_⟩
    rw [List.append_assoc] at read
    obtain ⟨d, r, written, first⟩ := body_cons c.body
    have unsigned (s : Char) (h : s = '+' ∨ s = '-') (r' : List Char) :
        c.body.written ++ (Clause.writtenBoost c.boost ++ rest) ≠ s :: r' := by
      rw [written, List.cons_append]
      intro same
      obtain rfl := (List.cons.inj same).1
      revert first h
      rintro (rfl | rfl | rfl)
      all_goals decide
    rw [Occur.written, List.nil_append, parseClause_unsigned (unsigned '+' (.inl rfl))
      (unsigned '-' (.inr rfl)), read]
    rfl

end Clauses

theorem clause_cons (c : Clause) : ∃ d r, c.written = d :: r ∧ isBlank d = false := by
  rw [Clause.written, List.append_assoc]
  cases c.occur with
  | must => exact ⟨'+', _, rfl, not_isBlank (by decide)⟩
  | mustNot => exact ⟨'-', _, rfl, not_isBlank (by decide)⟩
  | should =>
    obtain ⟨d, r, written, first⟩ := body_cons c.body
    refine ⟨d, r ++ Clause.writtenBoost c.boost, by rw [written]; rfl, not_isBlank ?_⟩
    rcases first with rfl | rfl | rfl
    all_goals decide

theorem Joined.head {clauses : List Clause} {text : List Char} (h : Joined clauses text) :
    ∀ d ∈ text.head?, isBlank d = false := by
  have first (c : Clause) (tail : List Char) :
      ∀ d ∈ (c.written ++ tail).head?, isBlank d = false := by
    obtain ⟨d, r, written, dark⟩ := clause_cons c
    rw [written]
    rintro e ⟨⟩
    exact dark
  cases h with
  | nil =>
    intro d none
    cases none
  | one c =>
    rw [← List.append_nil c.written]
    exact first c []
  | cons c gap blank more nonempty =>
    rw [List.append_assoc]
    exact first c _

theorem skipBlank_gap {gap text : List Char} (blank : ∀ d ∈ gap, isBlank d = true)
    (dark : ∀ d ∈ text.head?, isBlank d = false) (offset : Nat) :
    ∃ offset', Cursor.skipBlank ⟨offset, gap ++ text⟩ = ⟨offset', text⟩ := by
  change ∃ offset', blankFrom offset (gap ++ text) = ⟨offset', text⟩
  induction gap generalizing offset with
  | nil =>
    refine ⟨offset, ?_⟩
    cases text with
    | nil => rfl
    | cons d r => rw [List.nil_append, blankFrom, dark d rfl, if_neg Bool.false_ne_true]
  | cons d gap ih =>
    obtain ⟨first, others⟩ := List.forall_mem_cons.1 blank
    rw [List.cons_append, blankFrom, if_pos first]
    exact ih others _

/-- The clauses are read one after another, from white space on. -/
theorem parseClauses_joined {clauses : List Clause} {text : List Char} (h : Joined clauses text)
    {gap : List Char} (blank : ∀ d ∈ gap, isBlank d = true) (offset : Nat) :
    parseClauses ⟨offset, gap ++ text⟩ = .ok (clauses.map fun c => (c.occur, c.query)) := by
  obtain ⟨offset₁, skip⟩ := skipBlank_gap blank h.head offset
  induction h generalizing gap offset offset₁ with
  | nil => exact parseClauses_nil (by rw [skip])
  | one c =>
    have ends : EndsClause [] := by
      intro d none
      cases none
    obtain ⟨offset₂, read⟩ := reads_clause c ends offset₁
    rw [List.append_nil] at read
    rw [parseClauses_cons (by rw [skip]; exact read), parseClauses_nil rfl]
    rfl
  | @cons c gap' clauses text some blank' more nonempty ih =>
    have ends : EndsClause (gap' ++ text) := by
      cases gap' with
      | nil => exact absurd rfl some
      | cons d gap' =>
        rintro e ⟨⟩
        exact blank' _ List.mem_cons_self
    obtain ⟨offset₂, read⟩ := reads_clause c ends offset₁
    obtain ⟨offset₃, skip'⟩ := skipBlank_gap blank' more.head offset₂
    rw [List.append_assoc] at skip ⊢
    rw [← skip] at read
    rw [parseClauses_cons read, ih blank' offset₂ offset₃ skip']
    rfl

theorem assemble_clauses (clauses : List Clause) :
    assemble (clauses.map fun c => (c.occur, c.query)) = Clause.tree clauses := by
  have queries (occur : Occur) :
      clausesOf occur (clauses.map fun c => (c.occur, c.query)) = Clause.queries occur clauses := by
    rw [clausesOf, Clause.queries, List.filter_map, List.map_map]
    rfl
  have slot (make : List Query → Query) (qs : List Query) :
      group make qs = Clause.slot make qs := by
    cases qs with
    | nil => rfl
    | cons q qs => rfl
  cases clauses with
  | nil => rfl
  | cons c clauses =>
    rw [assemble, if_neg (by simp)]
    dsimp only
    rw [queries, queries, queries, slot, slot, slot]
    simp only [List.isEmpty_iff]
    rfl

end SearchQuery.Grammar

namespace SearchQuery
open Grammar

theorem parse_joined {clauses : List Clause} {text : List Char} (h : Joined clauses text) :
    parseQueryString (String.ofList text) = .ok (Clause.tree clauses) := by
  have none : ∀ d ∈ ([] : List Char), isBlank d = true := by
    intro d h
    cases h
  have read := parseClauses_joined h none 0
  rw [List.nil_append] at read
  rw [parseQueryString, String.toList_ofList, read]
  dsimp only
  rw [assemble_clauses]

theorem parse_joined_three :
    let n := String.ofList ['n']
    let word : Clause := ⟨.must, .within n (by decide) (.word (String.ofList [':']) (by decide)
      (some ⟨[2], by decide⟩)), none⟩
    let pattern : Clause :=
      ⟨.mustNot, .anywhere (.pattern [.plain '/' (by decide), .pair 'd' (by decide)]), none⟩
    let range : Clause :=
      ⟨.should, .comparison n (by decide) .atLeast (.number ⟨.minus, ⟨[5], none, by decide⟩, none⟩),
        some ⟨⟨[2], some [], by decide⟩, by rfl⟩⟩
    let text := ['+', '\\', 'n', ':', '\\', ':', '~', '2', ' ', '-', '/', '\\', '/', '\\', 'd', '/',
      ' ', '\\', 'n', ':', '>', '=', '-', '5', '^', '2', '.']
    Joined [word, pattern, range] text ∧ parseQueryString (String.ofList text) = .ok (.boolean
      (some (.conjunction
        [.onField (.text (String.ofList [':']) none none (some (.edits 2)) none) n none] none))
      (some (.disjunction [.onField
        (.numericRange ⟨some (-Decimal.nearest 5 0), none, some true, none⟩) n
        (some (Decimal.nearest 2 0))] none none))
      (some (.disjunction [.onField (.regexp (String.ofList ['/', '\\', 'd'])) "" none] none none))
      none) := by
  intro n word pattern range text
  have written : word.written ++ [' '] ++ (pattern.written ++ [' '] ++ range.written) = text := by
    simp only [word, range, n, Clause.written, Body.written, Atom.written, escaped,
      String.toList_ofList]
    decide
  have space : ∀ d ∈ [' '], isBlank d = true := by
    intro d h
    obtain rfl := List.mem_singleton.1 h
    decide
  have joined : Joined [word, pattern, range] text := by
    rw [← written]
    exact .cons word (by decide) space (.cons pattern (by decide) space (.one range) (by decide))
      (by decide)
  exact ⟨joined, parse_joined joined⟩

end SearchQuery
