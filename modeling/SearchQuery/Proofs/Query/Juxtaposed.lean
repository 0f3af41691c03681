import SearchQuery.Proofs.Query.Inverse

/-!
# Query strings one after another

White space ends whatever the end of a text ends, but for a backslash: at the end of a text it
escapes nothing, and before white space it would escape that.  So two query strings with white space
between them denote the clauses of the first and then those of the second, unless the first leaves
a backslash open.
-/

set_option autoImplicit false
namespace SearchQuery.Grammar
open Cursor

/-- Read from the front, where a backslash takes the next character with it, the text does not end
with a backslash that has no character to take. -/
def isClosed : List Char → Bool
  | [] => true
  | c :: r =>
    if c = '\\' then
      match r with
      | [] => false
      | _ :: r => isClosed r
    else isClosed r

theorem isClosed_escape (d : Char) (r : List Char) : isClosed ('\\' :: d :: r) = isClosed r := by
  rw [isClosed, if_pos rfl]

theorem isClosed_plain {c : Char} (h : c ≠ '\\') (r : List Char) :
    isClosed (c :: r) = isClosed r := by
  rw [isClosed.eq_def]
  exact if_neg h

/-- The number of backslashes that a text ends with. -/
def closingBackslashes (cs : List Char) : Nat := (cs.reverse.takeWhile (· == '\\')).length

theorem closingBackslashes_le (cs : List Char) : closingBackslashes cs ≤ cs.length := by
  have taken := (List.takeWhile_prefix (l := cs.reverse) (· == '\\')).length_le
  rwa [List.length_reverse] at taken

theorem closingBackslashes_cons (c : Char) (cs : List Char) :
    closingBackslashes (c :: cs) =
      if closingBackslashes cs = cs.length then cs.length + (if c = '\\' then 1 else 0)
      else closingBackslashes cs := by
  unfold closingBackslashes
  rw [List.reverse_cons, List.takeWhile_append, List.length_reverse]
  split
  · by_cases backslash : c = '\\'
    · simp [backslash]
    · simp [backslash, beq_eq_false_iff_ne.2 backslash]
  · rfl

theorem isClosed_iff (cs : List Char) : isClosed cs = true ↔ closingBackslashes cs % 2 = 0 := by
  fun_induction isClosed cs with
  | case1 => exact iff_of_true rfl rfl
  | case2 => exact iff_of_false Bool.false_ne_true (by decide)
  -- Two more count only if all of what follows them is backslashes.
  | case3 d r ih =>
    have most := closingBackslashes_le r
    rw [ih, closingBackslashes_cons, List.length_cons, if_pos rfl, closingBackslashes_cons]
    by_cases whole : closingBackslashes r = r.length
    · rw [if_pos whole, whole]
      by_cases backslash : d = '\\'
      · rw [if_pos backslash, if_pos rfl]
        omega
      · rw [if_neg backslash, Nat.add_zero, if_neg (Nat.ne_of_lt (Nat.lt_succ_self _))]
    · rw [if_neg whole, if_neg (by omega)]
  | case4 c r plain ih =>
    rw [ih, closingBackslashes_cons, if_neg plain]
    split
    · rename_i whole
      rw [whole, Nat.add_zero]
    · rfl

/-- Nothing, or white space if the text leaves no backslash open. -/
structure Fits (cs tail : List Char) : Prop where
  ends : EndsClause tail
  closed : tail ≠ [] → isClosed cs = true

namespace Fits
variable {cs tail : List Char}

theorem nil (cs : List Char) : Fits cs [] where
  ends := by
    intro c none
    cases none
  closed more := absurd rfl more

theorem of_isClosed {r : List Char} (same : isClosed r = isClosed cs) (h : Fits cs tail) :
    Fits r tail :=
  ⟨h.ends, fun more => same.trans (h.closed more)⟩

theorem plain {c : Char} (h : Fits (c :: cs) tail) (plain : c ≠ '\\') : Fits cs tail :=
  h.of_isClosed (isClosed_plain plain cs).symm

theorem escape {d : Char} (h : Fits ('\\' :: d :: cs) tail) : Fits cs tail :=
  h.of_isClosed (isClosed_escape d cs).symm

theorem eq_nil (h : Fits ['\\'] tail) : tail = [] :=
  Classical.byContradiction fun more => Bool.false_ne_true (h.closed more)

theorem ne_cons {a : Char} (h : Fits cs tail) (dark : isBlank a = false)
    (other : ∀ r, cs ≠ a :: r) (r : List Char) : cs ++ tail ≠ a :: r := by
  cases cs with
  | nil =>
    rintro rfl
    have blank := h.ends a rfl
    rw [dark] at blank
    cases blank
  | cons c cs =>
    intro same
    obtain ⟨rfl, -⟩ := List.cons.inj same
    exact other cs rfl

end Fits

/-- A parser that succeeds on a text gives the same with more text behind it, wherever the text
begins, and leaves that to be read.  `start` is an offset for reports. -/
def Continues {α : Type} (p : Nat → Cursor → Parsed α) (cs tail : List Char) : Prop :=
  ∀ start offset x k, p start ⟨offset, cs⟩ = .ok (x, k) →
    Fits k.rest tail ∧
      ∀ start' offset', ∃ behind, p start' ⟨offset', cs ++ tail⟩ = .ok (x, ⟨behind, k.rest ++ tail⟩)

namespace Continues
variable {α β : Type} {cs tail : List Char}

theorem congr {p q : Nat → Cursor → Parsed α} (h : Continues q cs tail)
    (same : ∀ start offset, p start ⟨offset, cs⟩ = q start ⟨offset, cs⟩)
    (same' : ∀ start offset, p start ⟨offset, cs ++ tail⟩ = q start ⟨offset, cs ++ tail⟩) :
    Continues p cs tail := by
  intro start offset x k read
  rw [same] at read
  obtain ⟨fits, again⟩ := h start offset x k read
  refine ⟨fits, fun start' offset' => ?_⟩
  rw [same']
  exact again start' offset'

theorem pure (x : α) (fits : Fits cs tail) : Continues (fun _ c => .ok (x, c)) cs tail := by
  rintro start offset y k ⟨⟩
  exact ⟨fits, fun _ offset' => ⟨offset', rfl⟩⟩

theorem map {p : Nat → Cursor → Parsed α} (h : Continues p cs tail) (f : α → β) :
    Continues (fun start c => (p start c).map f) cs tail := by
  intro start offset y k read
  obtain ⟨x, first, rfl⟩ := Parsed.map_eq_ok.1 read
  obtain ⟨fits, again⟩ := h start offset x k first
  refine ⟨fits, fun start' offset' => ?_⟩
  obtain ⟨behind, read'⟩ := again start' offset'
  exact ⟨behind, Parsed.map_eq_ok.2 ⟨x, read', rfl⟩⟩

theorem bind {p : Nat → Cursor → Parsed α} {g : α → Nat → Cursor → Parsed β}
    (h : Continues p cs tail) (next : ∀ x r, Fits r tail → Continues (g x) r tail) :
    Continues (fun start c => Except.bind (p start c) fun x => g x.1 start x.2) cs tail := by
  intro start offset y k read
  obtain ⟨⟨x, j⟩, first, second⟩ := bind_eq_ok.1 read
  obtain ⟨fits, again⟩ := h start offset x j first
  obtain ⟨fits', again'⟩ := next x j.rest fits start j.offset y k second
  refine ⟨fits', fun start' offset' => ?_⟩
  obtain ⟨behind, first'⟩ := again start' offset'
  obtain ⟨behind', second'⟩ := again' start' behind
  exact ⟨behind', bind_eq_ok.2 ⟨_, first', second'⟩⟩

theorem scan {s : Cursor → α × Cursor} {g : α → Nat → Cursor → Parsed β}
    (h : Continues (fun _ c => .ok (s c)) cs tail)
    (next : ∀ x r, Fits r tail → Continues (g x) r tail) :
    Continues (fun start c => g (s c).1 start (s c).2) cs tail :=
  (h.bind next).congr (fun _ _ => rfl) fun _ _ => rfl

/-- Reports may name the place where the parser itself begins. -/
theorem here {p : Nat → Cursor → Parsed α} (h : Continues p cs tail) :
    Continues (fun _ c => p c.offset c) cs tail := by
  intro start offset x k read
  obtain ⟨fits, again⟩ := h offset offset x k read
  exact ⟨fits, fun _ offset' => again offset' offset'⟩

theorem cons {p q : Nat → Cursor → Parsed α} {c : Char} (h : Continues q cs tail)
    (step : ∀ start offset r, p start ⟨offset, c :: r⟩ = q offset ⟨offset + 1, r⟩) :
    Continues p (c :: cs) tail := by
  intro start offset x k read
  rw [step] at read
  obtain ⟨fits, again⟩ := h _ _ x k read
  refine ⟨fits, fun start' offset' => ?_⟩
  rw [List.cons_append, step]
  exact again offset' (offset' + 1)

theorem ite {b : Prop} [Decidable b] {p q : Nat → Cursor → Parsed α}
    (first : b → Continues p cs tail) (second : ¬b → Continues q cs tail) :
    Continues (fun start c => if b then p start c else q start c) cs tail := by
  by_cases h : b
  · simpa only [if_pos h] using first h
  · simpa only [if_neg h] using second h

theorem byFirst {p : Nat → Cursor → Parsed α} (a : Char) (dark : isBlank a = false)
    (fits : Fits cs tail) (same : ∀ r, Fits (a :: r) tail → Continues p (a :: r) tail)
    (other : (∀ r, cs ≠ a :: r) → (∀ r, cs ++ tail ≠ a :: r) → Continues p cs tail) :
    Continues p cs tail := by
  by_cases first : ∃ r, cs = a :: r
  · obtain ⟨r, rfl⟩ := first
    exact same r fits
  · have first : ∀ r, cs ≠ a :: r := fun r h => first ⟨r, h⟩
    exact other first (fits.ne_cons dark first)

theorem error {p : Nat → Cursor → Parsed α}
    (h : ∀ start offset, ∃ e, p start ⟨offset, cs⟩ = .error e) : Continues p cs tail := by
  intro start offset x k read
  obtain ⟨e, fails⟩ := h start offset
  rw [fails] at read
  cases read

end Continues

section Characters
variable {cs tail : List Char}

theorem wordFrom_escape (offset : Nat) (d : Char) (r : List Char) :
    wordFrom offset ('\\' :: d :: r) = (d :: (wordFrom (offset + 1 + d.utf8Size) r).1,
      (wordFrom (offset + 1 + d.utf8Size) r).2) := by
  rw [wordFrom, if_pos rfl]

theorem wordFrom_inside (offset : Nat) {c : Char} (r : List Char) (backslash : c ≠ '\\')
    (inside : endsWord c = false) : wordFrom offset (c :: r) =
      (c :: (wordFrom (offset + c.utf8Size) r).1, (wordFrom (offset + c.utf8Size) r).2) := by
  rw [wordFrom.eq_def]
  simp only [if_neg backslash, inside, Bool.false_eq_true, if_false]

theorem wordFrom_append (fits : Fits cs tail) (offset offset' : Nat) :
    Fits (wordFrom offset cs).2.rest tail ∧ ∃ behind, wordFrom offset' (cs ++ tail) =
      ((wordFrom offset cs).1, ⟨behind, (wordFrom offset cs).2.rest ++ tail⟩) := by
  fun_induction wordFrom offset cs generalizing offset' with
  | case1 offset => exact ⟨fits, offset', wordFrom_stop fits.ends.atom.endsWord offset'⟩
  | case2 offset =>
    obtain rfl := fits.eq_nil
    exact ⟨.nil [], offset' + 1, rfl⟩
  | case3 offset d r word cursor read ih =>
    obtain ⟨fits', behind, read'⟩ := ih fits.escape (offset' + 1 + d.utf8Size)
    rw [read] at fits' read'
    refine ⟨fits', behind, ?_⟩
    rw [List.cons_append, List.cons_append, wordFrom_escape, read']
  | case4 offset c r backslash ends =>
    refine ⟨fits, offset', wordFrom_stop ?_ offset'⟩
    rintro d ⟨⟩
    exact ends
  | case5 offset c r backslash inside word cursor read ih =>
    obtain ⟨fits', behind, read'⟩ := ih (fits.plain backslash) (offset' + c.utf8Size)
    rw [read] at fits' read'
    refine ⟨fits', behind, ?_⟩
    rw [List.cons_append, wordFrom_inside _ _ backslash (Bool.not_eq_true _ ▸ inside), read']

theorem word_continues (fits : Fits cs tail) : Continues (fun _ c => .ok c.word) cs tail := by
  intro start offset x k read
  have read : wordFrom offset cs = (x, k) := Except.ok.inj read
  obtain ⟨fits', -⟩ := wordFrom_append fits offset offset
  rw [read] at fits'
  refine ⟨fits', fun _ offset' => ?_⟩
  obtain ⟨-, behind, again⟩ := wordFrom_append fits offset offset'
  rw [read] at again
  exact ⟨behind, congrArg Except.ok again⟩

/-- What a scanner found, it finds again with more text behind. -/
def FindsAgain (found again : Option (List Char × Cursor)) (tail : List Char) : Prop :=
  ∀ t k, found = some (t, k) →
    Fits k.rest tail ∧ ∃ behind, again = some (t, ⟨behind, k.rest ++ tail⟩)

theorem FindsAgain.none (again : Option (List Char × Cursor)) : FindsAgain none again tail := by
  intro t k found
  cases found

theorem FindsAgain.map {found again : Option (List Char × Cursor)} (h : FindsAgain found again tail)
    (f : List Char → List Char) :
    FindsAgain (found.map fun (t, k) => (f t, k)) (again.map fun (t, k) => (f t, k)) tail := by
  intro t k more
  obtain ⟨⟨s, j⟩, first, same⟩ := Option.map_eq_some_iff.1 more
  cases same
  obtain ⟨fits, behind, read⟩ := h s k first
  refine ⟨fits, behind, ?_⟩
  rw [read]
  rfl

theorem quotedFrom_append (fits : Fits cs tail) (offset offset' : Nat) :
    FindsAgain (quotedFrom offset cs) (quotedFrom offset' (cs ++ tail)) tail := by
  fun_induction quotedFrom offset cs generalizing offset' with
  | case1 => exact .none _
  | case2 offset r =>
    rintro t k ⟨⟩
    exact ⟨fits.plain (by decide), offset' + 1, quotedFrom_quote offset' (r ++ tail)⟩
  | case3 => exact .none _
  | case4 offset d r other ih =>
    rw [List.cons_append, List.cons_append, quotedFrom_escape]
    exact (ih fits.escape _).map (d :: ·)
  | case5 offset c r quote backslash ih =>
    rw [List.cons_append, quotedFrom_plain _ _ quote backslash]
    exact (ih (fits.plain backslash) _).map (c :: ·)

theorem patternFrom_append (fits : Fits cs tail) (offset offset' : Nat) :
    FindsAgain (patternFrom offset cs) (patternFrom offset' (cs ++ tail)) tail := by
  fun_induction patternFrom offset cs generalizing offset' with
  | case1 => exact .none _
  | case2 offset r =>
    rintro t k ⟨⟩
    exact ⟨fits.plain (by decide), offset' + 1, patternFrom_slash offset' (r ++ tail)⟩
  | case3 => exact .none _
  | case4 offset d r other ih =>
    rw [List.cons_append, List.cons_append, patternFrom_escape]
    exact (ih fits.escape _).map fun t => if d = '/' then d :: t else '\\' :: d :: t
  | case5 offset c r slash backslash ih =>
    rw [List.cons_append, patternFrom_plain _ _ slash backslash]
    exact (ih (fits.plain backslash) _).map (c :: ·)

theorem enclosed_continues {scan : Nat → List Char → Option (List Char × Cursor)}
    (appended : ∀ offset offset', FindsAgain (scan offset cs) (scan offset' (cs ++ tail)) tail)
    (mark : Char) (fault : Nat → Fault) :
    Continues (fun _ c => enclosed (fault c.offset) (scan (c.offset + 1) (c.rest.drop 1)))
      (mark :: cs) tail := by
  intro start offset x k read
  change enclosed (fault offset) (scan (offset + 1) cs) = .ok (x, k) at read
  cases first : scan (offset + 1) cs with
  | none =>
    rw [first] at read
    cases read
  | some taken =>
    obtain ⟨t, j⟩ := taken
    rw [first] at read
    cases read
    refine ⟨(appended _ offset t k first).1, fun _ offset' => ?_⟩
    obtain ⟨-, behind, again⟩ := appended _ (offset' + 1) t k first
    refine ⟨behind, ?_⟩
    change enclosed (fault offset') (scan (offset' + 1) (cs ++ tail)) = _
    rw [again, enclosed]

theorem phrase_continues (fits : Fits ('"' :: cs) tail) :
    Continues (fun _ => parsePhrase) ('"' :: cs) tail :=
  enclosed_continues (quotedFrom_append (fits.plain (by decide))) '"' .openPhrase

theorem pattern_continues (fits : Fits ('/' :: cs) tail) :
    Continues (fun _ => parsePattern) ('/' :: cs) tail :=
  enclosed_continues (patternFrom_append (fits.plain (by decide))) '/' .openPattern

theorem numeral_append (fits : Fits cs tail) :
    Fits (cs.dropWhile isNumeralChar) tail ∧
      (cs ++ tail).takeWhile isNumeralChar = cs.takeWhile isNumeralChar ∧
      (cs ++ tail).dropWhile isNumeralChar = cs.dropWhile isNumeralChar ++ tail := by
  induction cs with
  | nil =>
    refine ⟨fits, ?_⟩
    cases tail with
    | nil => exact ⟨rfl, rfl⟩
    | cons d r =>
      have other : isNumeralChar d = false := fits.ends.atom.not_numeral d rfl
      simp [other]
  | cons c cs ih =>
    cases digit : isNumeralChar c with
    | false => simpa [digit] using fits
    | true =>
      have plain : c ≠ '\\' := by
        rintro rfl
        exact absurd digit (by decide)
      obtain ⟨fits', taken, left⟩ := ih (fits.plain plain)
      rw [List.cons_append, List.takeWhile_cons_of_pos digit, List.takeWhile_cons_of_pos digit,
        List.dropWhile_cons_of_pos digit, List.dropWhile_cons_of_pos digit, taken, left]
      exact ⟨fits', rfl, rfl⟩

theorem numeral_continues (fits : Fits cs tail) : Continues (fun _ c => .ok c.numeral) cs tail := by
  obtain ⟨fits', taken, left⟩ := numeral_append fits
  rintro start offset x k ⟨⟩
  refine ⟨fits', fun _ offset' => ⟨offset' + (cs.takeWhile isNumeralChar).length, ?_⟩⟩
  dsimp only [numeral]
  rw [taken, left]

end Characters

section Clauses
variable {cs tail : List Char}

theorem edits_continues (fits : Fits cs tail) : Continues (fun _ => parseEdits) cs tail := by
  have judged (digits : String) (r : List Char) (fits : Fits r tail) :
      Continues (fun start k =>
        if digits.isEmpty then .ok (Fuzziness.edits 1, k)
        else if digits.toList.all Decimal.isDigit &&
            decide (Decimal.digitsValue digits.toList < 0x8000000000000000) then
          .ok (.edits (Int64.ofNat (Decimal.digitsValue digits.toList)), k)
        else .error (Fault.edits digits start)) r tail :=
    .ite (fun _ => .pure _ fits) fun _ =>
      .ite (fun _ => .pure _ fits) fun _ => .error fun _ _ => ⟨_, rfl⟩
  exact ((numeral_continues fits).scan judged).here

theorem parseText_bare (field : String) (word : List Char) (h : ∀ r, cs ≠ '~' :: r)
    (offset : Nat) : parseText field word ⟨offset, cs⟩ =
      .ok (.onField (.text (String.ofList word) none none none none) field none, ⟨offset, cs⟩) := by
  unfold parseText
  split
  · rename_i tilde
    exact absurd tilde (h _)
  · rfl

theorem text_continues (field : String) (word : List Char) (fits : Fits cs tail) :
    Continues (fun _ => parseText field word) cs tail := by
  refine .byFirst '~' (by decide) fits (fun r fits => ?_) fun bare bare' => ?_
  · exact ((edits_continues (fits.plain (by decide))).map _).cons fun _ _ _ => rfl
  · exact (Continues.pure _ fits).congr (fun _ => parseText_bare field word bare)
      (fun _ => parseText_bare field word bare')

def numberRange (field : String) (lower inclusive : Bool) (word : List Char) (start : Nat)
    (k : Cursor) : Parsed Query :=
  match Decimal.read? (String.ofList word) with
  | some x => .ok (.onField (.numericRange (halfRange lower inclusive x)) field none, k)
  | none => .error (.missingOperand start (String.ofList word))

theorem numberRange_continues (field : String) (lower inclusive : Bool) (word : List Char)
    (fits : Fits cs tail) : Continues (numberRange field lower inclusive word) cs tail := by
  unfold numberRange
  cases Decimal.read? (String.ofList word) with
  | some x => exact .pure _ fits
  | none => exact .error fun _ _ => ⟨_, rfl⟩

theorem parseOperand_number (field : String) (lower inclusive : Bool) (h : ∀ r, cs ≠ '"' :: r)
    (offset : Nat) : parseOperand field lower inclusive ⟨offset, cs⟩ =
      numberRange field lower inclusive (Cursor.word ⟨offset, cs⟩).1 offset
        (Cursor.word ⟨offset, cs⟩).2 := by
  unfold parseOperand
  split
  · rename_i quote
    exact absurd quote (h _)
  · rfl

theorem operand_continues (field : String) (lower inclusive : Bool) (fits : Fits cs tail) :
    Continues (fun _ => parseOperand field lower inclusive) cs tail := by
  refine .byFirst '"' (by decide) fits (fun r fits => (phrase_continues fits).map _)
    fun number number' => ?_
  have judged := (word_continues fits).scan fun word _ =>
    numberRange_continues field lower inclusive word
  exact judged.here.congr (fun _ => parseOperand_number field lower inclusive number)
    (fun _ => parseOperand_number field lower inclusive number')

theorem comparison_continues (field : String) (lower : Bool) (fits : Fits cs tail) :
    Continues (fun _ => parseComparison field lower) cs tail := by
  refine .byFirst '=' (by decide) fits (fun r fits => ?_) fun strict strict' => ?_
  · exact (operand_continues field lower true (fits.plain (by decide))).cons fun _ _ _ => rfl
  · exact (operand_continues field lower false fits).congr
      (fun _ => parseComparison_strict field lower strict)
      (fun _ => parseComparison_strict field lower strict')

theorem parseValue_bare (field : String) (some : cs ≠ []) (quote : ∀ r, cs ≠ '"' :: r)
    (slash : ∀ r, cs ≠ '/' :: r) (above : ∀ r, cs ≠ '>' :: r) (below : ∀ r, cs ≠ '<' :: r)
    (offset : Nat) : parseValue field ⟨offset, cs⟩ =
      if (Cursor.word ⟨offset, cs⟩).1.isEmpty then .error (.missingValue field offset)
      else parseText field (Cursor.word ⟨offset, cs⟩).1 (Cursor.word ⟨offset, cs⟩).2 := by
  unfold parseValue
  split
  · rename_i same
    exact absurd same some
  · rename_i same
    exact absurd same (quote _)
  · rename_i same
    exact absurd same (slash _)
  · rename_i same
    exact absurd same (above _)
  · rename_i same
    exact absurd same (below _)
  · rfl

theorem value_continues (field : String) (fits : Fits cs tail) :
    Continues (fun _ => parseValue field) cs tail := by
  -- No value is a fault, whatever stands behind it.
  by_cases none : cs = []
  · subst none
    exact .error fun _ offset => ⟨.missingValue field offset, rfl⟩
  refine .byFirst '"' (by decide) fits (fun r fits => (phrase_continues fits).map _)
    fun quote quote' => ?_
  refine .byFirst '/' (by decide) fits (fun r fits => (pattern_continues fits).map _)
    fun slash slash' => ?_
  refine .byFirst '>' (by decide) fits (fun r fits => ?_) fun above above' => ?_
  · exact (comparison_continues field true (fits.plain (by decide))).cons fun _ _ _ => rfl
  refine .byFirst '<' (by decide) fits (fun r fits => ?_) fun below below' => ?_
  · exact (comparison_continues field false (fits.plain (by decide))).cons fun _ _ _ => rfl
  have judged (word : List Char) (r : List Char) (fits : Fits r tail) :
      Continues (fun start k => if word.isEmpty then .error (Fault.missingValue field start)
        else parseText field word k) r tail :=
    .ite (fun _ => .error fun _ _ => ⟨_, rfl⟩) fun _ => text_continues field word fits
  have some' : cs ++ tail ≠ [] := fun empty => none (List.append_eq_nil_iff.1 empty).1
  exact ((word_continues fits).scan judged).here.congr
    (fun _ => parseValue_bare field none quote slash above below)
    (fun _ => parseValue_bare field some' quote' slash' above' below')

def behindWord (word : List Char) (start : Nat) (k : Cursor) : Parsed Query :=
  match k.rest with
  | ':' :: r =>
    if word.isEmpty then .error (.emptyField start)
    else parseValue (String.ofList word) ⟨k.offset + 1, r⟩
  | _ =>
    if word.isEmpty then .error (.unexpected (k.rest.headD ' ') k.offset)
    else parseText "" word k

theorem behindWord_bare {word : List Char} (some : word.isEmpty = false)
    (colon : ∀ r, cs ≠ ':' :: r) (start offset : Nat) :
    behindWord word start ⟨offset, cs⟩ = parseText "" word ⟨offset, cs⟩ := by
  unfold behindWord
  split
  · rename_i same
    exact absurd same (colon _)
  · rw [some]
    rfl

theorem behindWord_continues (word : List Char) (fits : Fits cs tail) :
    Continues (behindWord word) cs tail := by
  cases word with
  | nil =>
    refine .error fun start offset => ?_
    unfold behindWord
    split
    · exact ⟨_, rfl⟩
    · exact ⟨_, rfl⟩
  | cons c word =>
    refine .byFirst ':' (by decide) fits (fun r fits => ?_) fun bare bare' => ?_
    · exact (value_continues _ (fits.plain (by decide))).cons fun _ _ _ => rfl
    · exact (text_continues "" (c :: word) fits).congr (behindWord_bare rfl bare)
        (behindWord_bare rfl bare')

theorem parseAtom_bare (quote : ∀ r, cs ≠ '"' :: r) (slash : ∀ r, cs ≠ '/' :: r) (offset : Nat) :
    parseAtom ⟨offset, cs⟩ =
      behindWord (Cursor.word ⟨offset, cs⟩).1 offset (Cursor.word ⟨offset, cs⟩).2 := by
  unfold parseAtom
  split
  · rename_i same
    exact absurd same (quote _)
  · rename_i same
    exact absurd same (slash _)
  · rfl

theorem atom_continues (fits : Fits cs tail) : Continues (fun _ => parseAtom) cs tail := by
  refine .byFirst '"' (by decide) fits (fun r fits => (phrase_continues fits).map _)
    fun quote quote' => ?_
  refine .byFirst '/' (by decide) fits (fun r fits => (pattern_continues fits).map _)
    fun slash slash' => ?_
  exact ((word_continues fits).scan fun word _ => behindWord_continues word).here.congr
    (fun _ => parseAtom_bare quote slash) (fun _ => parseAtom_bare quote' slash')

theorem parseBoost_bare (q : Query) (h : ∀ r, cs ≠ '^' :: r) (offset : Nat) :
    parseBoost q ⟨offset, cs⟩ = .ok (q, ⟨offset, cs⟩) := by
  unfold parseBoost
  split
  · rename_i same
    exact absurd same (h _)
  · rfl

def withBoost (q : Query) (digits : String) (start : Nat) (k : Cursor) : Parsed Query :=
  match Decimal.read? digits with
  | some b =>
    if b.isFinite && decide (0.0 ≤ b) then .ok (q.setBoost b, k) else .error (.boost digits start)
  | none => .error (.boost digits start)

theorem withBoost_continues (q : Query) (digits : String) (fits : Fits cs tail) :
    Continues (withBoost q digits) cs tail := by
  unfold withBoost
  cases Decimal.read? digits with
  | some b => exact .ite (fun _ => .pure _ fits) fun _ => .error fun _ _ => ⟨_, rfl⟩
  | none => exact .error fun _ _ => ⟨_, rfl⟩

theorem boost_continues (q : Query) (fits : Fits cs tail) :
    Continues (fun _ => parseBoost q) cs tail := by
  refine .byFirst '^' (by decide) fits (fun r fits => ?_) fun bare bare' => ?_
  · have judged := (numeral_continues (fits.plain (by decide))).scan fun digits _ =>
      withBoost_continues q digits
    exact judged.here.cons fun _ _ _ => rfl
  · exact (Continues.pure q fits).congr (fun _ => parseBoost_bare q bare)
      (fun _ => parseBoost_bare q bare')

theorem body_continues (fits : Fits cs tail) : Continues (fun _ => parseBody) cs tail := by
  have steps (c : Cursor) :
      parseBody c = Except.bind (parseAtom c) fun x => parseBoost x.1 x.2 := by
    unfold parseBody
    cases parseAtom c with
    | ok x => rfl
    | error e => rfl
  exact ((atom_continues fits).bind fun q _ => boost_continues q).congr (fun _ _ => steps _)
    fun _ _ => steps _

theorem signed_continues (sign : String) (fits : Fits cs tail) :
    Continues (parseSigned sign) cs tail := by
  cases cs with
  | nil => exact .error fun _ _ => ⟨_, rfl⟩
  | cons d r =>
    cases blank : isBlank d with
    | true => exact .error fun _ _ => ⟨_, if_pos blank⟩
    | false =>
      have dark : ¬isBlank d = true := Bool.eq_false_iff.1 blank
      exact (body_continues fits).congr (fun _ _ => if_neg dark) (fun _ _ => if_neg dark)

/-- A clause is read the same with white space and anything else behind it. -/
theorem clause_continues (fits : Fits cs tail) : Continues (fun _ => parseClause) cs tail := by
  refine .byFirst '+' (by decide) fits (fun r fits => ?_) fun plus plus' => ?_
  · exact ((signed_continues "+" (fits.plain (by decide))).map _).cons fun _ _ _ => rfl
  refine .byFirst '-' (by decide) fits (fun r fits => ?_) fun minus minus' => ?_
  · exact ((signed_continues "-" (fits.plain (by decide))).map _).cons fun _ _ _ => rfl
  exact ((body_continues fits).map _).congr (fun _ => parseClause_unsigned plus minus)
    (fun _ => parseClause_unsigned plus' minus')

end Clauses

theorem parseClauses_congr {c d : Cursor} (h : c.skipBlank = d.skipBlank) :
    parseClauses c = parseClauses d := by
  rw [parseClauses.eq_def c, parseClauses.eq_def d, h]

section Texts
variable {cs tail : List Char}

theorem blankFrom_append_nil {offset : Nat} (h : (blankFrom offset cs).rest = [])
    (tail : List Char) (offset' : Nat) :
    ∃ behind, blankFrom offset' (cs ++ tail) = blankFrom behind tail := by
  fun_induction blankFrom offset cs generalizing offset' with
  | case1 => exact ⟨offset', rfl⟩
  | case2 offset c r blank ih =>
    obtain ⟨behind, skipped⟩ := ih h (offset' + c.utf8Size)
    refine ⟨behind, ?_⟩
    rw [List.cons_append, blankFrom, if_pos blank, skipped]
  | case3 => cases h

theorem blankFrom_append_cons (fits : Fits cs tail) {offset : Nat} {d : Char} {r : List Char}
    (h : (blankFrom offset cs).rest = d :: r) (offset' : Nat) :
    Fits (d :: r) tail ∧ ∃ behind, blankFrom offset' (cs ++ tail) = ⟨behind, d :: r ++ tail⟩ := by
  fun_induction blankFrom offset cs generalizing offset' with
  | case1 => cases h
  | case2 offset c r' blank ih =>
    have plain : c ≠ '\\' := by
      rintro rfl
      exact absurd blank (by decide)
    obtain ⟨fits', behind, skipped⟩ := ih (fits.plain plain) h (offset' + c.utf8Size)
    refine ⟨fits', behind, ?_⟩
    rw [List.cons_append, blankFrom, if_pos blank, skipped]
  | case3 offset c r' dark =>
    cases h
    refine ⟨fits, offset', ?_⟩
    rw [List.cons_append, blankFrom, if_neg dark]

/-- The clauses of a text come first, then those of what stands behind it. -/
theorem parseClauses_append {c : Cursor} {clauses : List (Occur × Query)}
    (fits : Fits c.rest tail) (read : parseClauses c = .ok clauses) (offset' : Nat) :
    ∃ behind, parseClauses ⟨offset', c.rest ++ tail⟩ =
      (parseClauses ⟨behind, tail⟩).map (clauses ++ ·) := by
  -- By the clauses of the text: what is left behind each still fits what stands behind the text.
  fun_induction parseClauses c generalizing clauses offset' with
  | case1 c k =>
    rename_i empty
    cases read
    obtain ⟨behind, skipped⟩ := blankFrom_append_nil (List.isEmpty_iff.1 empty) tail offset'
    refine ⟨behind, ?_⟩
    rw [parseClauses_congr (c := ⟨offset', c.rest ++ tail⟩) (d := ⟨behind, tail⟩) skipped]
    exact (congrFun Except.map_id _).symm
  | case2 => cases read
  | case3 c k more clause k' =>
    rename_i first ih
    obtain ⟨others, read', rfl⟩ := map_eq_ok.1 read
    obtain ⟨d, r, dark⟩ := List.ne_nil_iff_exists_cons.1 fun empty =>
      more (List.isEmpty_iff.2 empty)
    obtain ⟨fits', behind, skipped⟩ := blankFrom_append_cons fits dark offset'
    rw [← dark] at fits' skipped
    obtain ⟨fits'', again⟩ := clause_continues fits' 0 k.offset clause k' first
    obtain ⟨behind', first'⟩ := again 0 behind
    obtain ⟨behind'', rest⟩ := ih fits'' read' behind'
    refine ⟨behind'', ?_⟩
    have skipped : Cursor.skipBlank ⟨offset', c.rest ++ tail⟩ = ⟨behind, k.rest ++ tail⟩ := skipped
    rw [← skipped] at first'
    rw [parseClauses_cons first', rest]
    cases parseClauses ⟨behind'', tail⟩ with
    | ok more => rfl
    | error e => rfl

theorem parseClauses_offset {offset : Nat} {clauses : List (Occur × Query)}
    (read : parseClauses ⟨offset, cs⟩ = .ok clauses) (offset' : Nat) :
    parseClauses ⟨offset', cs⟩ = .ok clauses := by
  obtain ⟨behind, again⟩ := parseClauses_append (.nil cs) read offset'
  rw [List.append_nil, parseClauses_nil (c := ⟨behind, []⟩) rfl] at again
  rw [again]
  exact congrArg Except.ok (List.append_nil clauses)

theorem parseClauses_gap {gap : List Char} (blank : ∀ c ∈ gap, isBlank c = true) (cs : List Char)
    (offset : Nat) : ∃ behind, parseClauses ⟨offset, gap ++ cs⟩ = parseClauses ⟨behind, cs⟩ := by
  have whole (offset : Nat) : (blankFrom offset gap).rest = [] := by
    induction gap generalizing offset with
    | nil => rfl
    | cons c gap ih =>
      obtain ⟨first, others⟩ := List.forall_mem_cons.1 blank
      rw [blankFrom, if_pos first]
      exact ih others _
  obtain ⟨behind, skipped⟩ := blankFrom_append_nil (whole 0) cs offset
  exact ⟨behind, parseClauses_congr skipped⟩

end Texts

def members : Option Query → List Query
  | some (.conjunction clauses _) => clauses
  | some (.disjunction clauses _ _) => clauses
  | _ => []

/-- The clauses that the tree of a query string has in one place. -/
def clausesIn : Occur → Query → List Query
  | .must, .boolean must _ _ _ => members must
  | .should, .boolean _ should _ _ => members should
  | .mustNot, .boolean _ _ mustNot _ => members mustNot
  | _, _ => []

/-- The tree of a query string with the given clauses. -/
def treeOf (clauses : Occur → List Query) : Query :=
  if clauses .must = [] ∧ clauses .should = [] ∧ clauses .mustNot = [] then .nothing none
  else
    let least := if clauses .must = [] then some 1 else none
    .boolean (group (.conjunction · none) (clauses .must))
      (group (.disjunction · least none) (clauses .should))
      (group (.disjunction · none none) (clauses .mustNot)) none

theorem members_group {make : List Query → Query} (h : ∀ qs, members (some (make qs)) = qs)
    (qs : List Query) : members (group make qs) = qs := by
  cases qs with
  | nil => rfl
  | cons q qs => exact h _

theorem clausesIn_treeOf (clauses : Occur → List Query) (occur : Occur) :
    clausesIn occur (treeOf clauses) = clauses occur := by
  unfold treeOf
  split
  · rename_i none
    obtain ⟨must, should, mustNot⟩ := none
    cases occur with
    | must => exact must.symm
    | should => exact should.symm
    | mustNot => exact mustNot.symm
  · cases occur with
    | must => exact members_group (fun _ => rfl) _
    | should => exact members_group (fun _ => rfl) _
    | mustNot => exact members_group (fun _ => rfl) _

theorem clausesOf_append (occur : Occur) (first second : List (Occur × Query)) :
    clausesOf occur (first ++ second) = clausesOf occur first ++ clausesOf occur second := by
  rw [clausesOf, List.filter_append, List.map_append]
  rfl

theorem assemble_eq_treeOf (clauses : List (Occur × Query)) :
    assemble clauses = treeOf (clausesOf · clauses) := by
  cases clauses with
  | nil => exact (if_pos ⟨rfl, rfl, rfl⟩).symm
  | cons clause clauses =>
    have held := exists_slot (List.cons_ne_nil clause clauses)
    rw [assemble, if_neg (by simp), treeOf, if_neg held]
    simp only [List.isEmpty_iff]

theorem clausesIn_assemble (occur : Occur) (clauses : List (Occur × Query)) :
    clausesIn occur (assemble clauses) = clausesOf occur clauses := by
  rw [assemble_eq_treeOf, clausesIn_treeOf]

theorem least_treeOf {clauses : Occur → List Query} {must mustNot : Option Query}
    {should : List Query} {least : Option UInt32} {weight boost : Option Float}
    (h : treeOf clauses = .boolean must (some (.disjunction should least weight)) mustNot boost) :
    least = some 1 ↔ clauses .must = [] := by
  unfold treeOf at h
  split at h
  · cases h
  · injection h with _ slot
    rw [group] at slot
    split at slot
    · cases slot
    · cases slot
      split
      · rename_i none
        exact iff_of_true rfl none
      · rename_i some
        refine iff_of_false ?_ some
        intro none
        cases none

end SearchQuery.Grammar

namespace SearchQuery
open Grammar

/-- The clauses in its three places are all there is to the tree of a query string. -/
theorem parse_eq_treeOf {text : String} {q : Query} (h : parseQueryString text = .ok q) :
    q = treeOf (clausesIn · q) := by
  obtain ⟨clauses, -, rfl⟩ := parseQueryString_eq_ok.1 h
  simp only [clausesIn_assemble]
  exact assemble_eq_treeOf clauses

/-- Query strings with white space between them denote, in each place of the tree, the clauses of
the first and then those of the second. -/
theorem parse_juxtaposed {s₁ s₂ gap : String} {q₁ q₂ : Query}
    (first : parseQueryString s₁ = .ok q₁) (second : parseQueryString s₂ = .ok q₂)
    (closed : closingBackslashes s₁.toList % 2 = 0) (nonempty : gap ≠ "")
    (blank : ∀ c ∈ gap.toList, isBlank c = true) :
    ∃ q, parseQueryString (s₁ ++ gap ++ s₂) = .ok q ∧
      q = treeOf (fun occur => clausesIn occur q₁ ++ clausesIn occur q₂) ∧
      (∀ occur, clausesIn occur q = clausesIn occur q₁ ++ clausesIn occur q₂) ∧
      ∀ must should least weight mustNot boost,
        q = .boolean must (some (.disjunction should least weight)) mustNot boost →
          (least = some 1 ↔ clausesIn .must q₁ ++ clausesIn .must q₂ = []) := by
  obtain ⟨clauses₁, read₁, rfl⟩ := parseQueryString_eq_ok.1 first
  obtain ⟨clauses₂, read₂, rfl⟩ := parseQueryString_eq_ok.1 second
  have ends : EndsClause (gap.toList ++ s₂.toList) := by
    cases chars : gap.toList with
    | nil => exact absurd (String.toList_inj.1 chars) nonempty
    | cons d r =>
      rintro c ⟨⟩
      exact blank d (by rw [chars]; exact List.mem_cons_self)
  have fits : Fits s₁.toList (gap.toList ++ s₂.toList) := ⟨ends, fun _ => (isClosed_iff _).2 closed⟩
  have read : parseClauses ⟨0, (s₁ ++ gap ++ s₂).toList⟩ = .ok (clauses₁ ++ clauses₂) := by
    obtain ⟨behind₁, both⟩ := parseClauses_append fits read₁ 0
    obtain ⟨behind₂, skipped⟩ := parseClauses_gap blank s₂.toList behind₁
    rw [String.toList_append, String.toList_append, List.append_assoc, both, skipped,
      parseClauses_offset read₂]
    rfl
  have tree : assemble (clauses₁ ++ clauses₂) = treeOf (fun occur =>
      clausesIn occur (assemble clauses₁) ++ clausesIn occur (assemble clauses₂)) := by
    simp only [clausesIn_assemble, ← clausesOf_append]
    exact assemble_eq_treeOf _
  refine ⟨_, parseQueryString_eq_ok.2 ⟨_, read, rfl⟩, tree, fun occur => ?_, ?_⟩
  · rw [tree, clausesIn_treeOf]
  · intro must should least weight mustNot boost same
    exact least_treeOf (tree.symm.trans same)

theorem parse_juxtaposed_phrase :
    let phrase : Query := .onField (.textPhrase "a b" none none) "" none
    let word : Query := .onField (.text "go" none none (some (.edits 1)) none) "" none
    let first : Query := .boolean (some (.conjunction [phrase] none)) none none none
    let second : Query := .boolean none (some (.disjunction [word] (some 1) none)) none none
    parseQueryString "+\"a b\"" = .ok first ∧ parseQueryString "go~" = .ok second ∧
      ∃ q, parseQueryString ("+\"a b\"" ++ "\t " ++ "go~") = .ok q ∧
        q = treeOf (fun occur => clausesIn occur first ++ clausesIn occur second) ∧
        (∀ occur, clausesIn occur q = clausesIn occur first ++ clausesIn occur second) ∧
        ∀ must should least weight mustNot boost,
          q = .boolean must (some (.disjunction should least weight)) mustNot boost →
            (least = some 1 ↔ clausesIn .must first ++ clausesIn .must second = []) := by
  intro phrase word first second
  have clause₁ : parseClause (Cursor.skipBlank ⟨0, ['+', '"', 'a', ' ', 'b', '"']⟩) =
      .ok ((.must, phrase), ⟨6, []⟩) := rfl
  have clause₂ : parseClause (Cursor.skipBlank ⟨0, ['g', 'o', '~']⟩) =
      .ok ((.should, word), ⟨3, []⟩) := rfl
  have clauses₁ := (parseClauses_cons clause₁).trans (by rw [parseClauses_nil rfl])
  have clauses₂ := (parseClauses_cons clause₂).trans (by rw [parseClauses_nil rfl])
  have read₁ : parseQueryString "+\"a b\"" = .ok first :=
    parseQueryString_eq_ok.2 ⟨_, clauses₁, rfl⟩
  have read₂ : parseQueryString "go~" = .ok second :=
    parseQueryString_eq_ok.2 ⟨_, clauses₂, rfl⟩
  have blank : "\t ".toList.all isBlank = true := rfl
  exact ⟨read₁, read₂, parse_juxtaposed read₁ read₂ (by decide) (by decide)
    (List.all_eq_true.1 blank)⟩

/-- An open backslash takes the white space into the word. -/
example : parseClause ⟨0, ['a', '\\', ' ', 'b']⟩ =
    .ok ((.should, .onField (.text "a b" none none none none) "" none), ⟨4, []⟩) :=
  rfl

end SearchQuery
