import SearchQuery.Query.Basic

/-!
# The grammar of query strings

A query string is a list of clauses between white space.  A clause is a word, a phrase in quotes or
a pattern between slashes, after an optional field and colon, with `+` or `-` in front if it is
required or excluded and with `^` and a boost behind it.  A word may be followed by `~` and a number
of edits.  Behind a field a comparison with a number or with a quoted date may stand instead.  A
backslash takes the next character literally.

The parser walks over the text with a cursor, which knows how many bytes lie before it.
-/

set_option autoImplicit false
namespace SearchQuery

namespace Grammar

/-- What is wrong with a query string, and at which byte. -/
inductive Fault where
  | danglingSign (sign : String) (offset : Nat)
  | emptyField (offset : Nat)
  | unexpected (found : Char) (offset : Nat)
  | missingValue (field : String) (offset : Nat)
  | missingOperand (offset : Nat) (found : String)
  | openPhrase (offset : Nat)
  | openPattern (offset : Nat)
  | boost (digits : String) (offset : Nat)
  | edits (digits : String) (offset : Nat)

def Fault.message : Fault → String
  | danglingSign sign n => s!"expected a clause after '{sign}' at offset {n}"
  | emptyField n => s!"empty field name at offset {n}"
  | unexpected found n => s!"unexpected '{found}' at offset {n}"
  | missingValue field n => s!"expected a value after '{field}:' at offset {n}"
  | missingOperand n found =>
    s!"expected a number or quoted date at offset {n}, found '{found}'"
  | openPhrase n => s!"unterminated phrase starting at offset {n}"
  | openPattern n => s!"unterminated regexp starting at offset {n}"
  | boost digits n => s!"invalid boost '{digits}' at offset {n}"
  | edits digits n => s!"invalid fuzziness '{digits}' at offset {n}"

/-- A place in a text: the number of bytes before it, and the characters from it on. -/
structure Cursor where
  offset : Nat
  rest : List Char

namespace Cursor

def blankFrom (offset : Nat) : List Char → Cursor
  | [] => ⟨offset, []⟩
  | c :: r => if isBlank c then blankFrom (offset + c.utf8Size) r else ⟨offset, c :: r⟩

def skipBlank (c : Cursor) : Cursor := blankFrom c.offset c.rest

def endsWord (c : Char) : Bool :=
  c == ':' || c == '^' || c == '~' || c == '"' || isBlank c

def wordFrom (offset : Nat) : List Char → List Char × Cursor
  | [] => ([], ⟨offset, []⟩)
  | c :: r =>
    if c = '\\' then
      match r with
      | [] => ([], ⟨offset + 1, []⟩)
      | d :: r =>
        let (word, cursor) := wordFrom (offset + 1 + d.utf8Size) r
        (d :: word, cursor)
    else if endsWord c then ([], ⟨offset, c :: r⟩)
    else
      let (word, cursor) := wordFrom (offset + c.utf8Size) r
      (c :: word, cursor)

def word (c : Cursor) : List Char × Cursor := wordFrom c.offset c.rest

def quotedFrom (offset : Nat) : List Char → Option (List Char × Cursor)
  | [] => none
  | c :: r =>
    if c = '"' then some ([], ⟨offset + 1, r⟩)
    else if c = '\\' then
      match r with
      | [] => none
      | d :: r => (quotedFrom (offset + 1 + d.utf8Size) r).map fun (t, k) => (d :: t, k)
    else (quotedFrom (offset + c.utf8Size) r).map fun (t, k) => (c :: t, k)

/-- The text of a pattern to its closing slash.  Only a slash loses its backslash. -/
def patternFrom (offset : Nat) : List Char → Option (List Char × Cursor)
  | [] => none
  | c :: r =>
    if c = '/' then some ([], ⟨offset + 1, r⟩)
    else if c = '\\' then
      match r with
      | [] => none
      | d :: r =>
        (patternFrom (offset + 1 + d.utf8Size) r).map fun (t, k) =>
          (if d = '/' then d :: t else c :: d :: t, k)
    else (patternFrom (offset + c.utf8Size) r).map fun (t, k) => (c :: t, k)

/-- The place behind the first closing mark that no backslash escapes. -/
def closing (mark : Char) (offset : Nat) : List Char → Option Cursor
  | [] => none
  | c :: r =>
    if c = mark then some ⟨offset + 1, r⟩
    else if c = '\\' then
      match r with
      | [] => none
      | d :: r => closing mark (offset + 1 + d.utf8Size) r
    else closing mark (offset + c.utf8Size) r

theorem quotedFrom_closing (offset : Nat) (cs : List Char) :
    (quotedFrom offset cs).map (·.2) = closing '"' offset cs := by
  fun_induction quotedFrom offset cs <;> rw [closing.eq_def] <;> simp_all [Function.comp_def]

theorem patternFrom_closing (offset : Nat) (cs : List Char) :
    (patternFrom offset cs).map (·.2) = closing '/' offset cs := by
  fun_induction patternFrom offset cs <;> rw [closing.eq_def] <;> simp_all [Function.comp_def]

theorem closing_length {mark : Char} {offset : Nat} {cs : List Char} {k : Cursor}
    (h : closing mark offset cs = some k) : k.rest.length < cs.length := by
  fun_induction closing mark offset cs with
  | case1 => cases h
  | case2 =>
    cases h
    exact Nat.lt_succ_self _
  | case3 => cases h
  | case4 offset d r _ ih => exact Nat.lt_succ_of_lt (Nat.lt_succ_of_lt (ih h))
  | case5 offset c r _ _ ih => exact Nat.lt_succ_of_lt (ih h)

def isNumeralChar (c : Char) : Bool := Decimal.isDigit c || c == '.'

def numeral (c : Cursor) : String × Cursor :=
  let digits := c.rest.takeWhile isNumeralChar
  (String.ofList digits, ⟨c.offset + digits.length, c.rest.dropWhile isNumeralChar⟩)

end Cursor

abbrev Parsed (α : Type) := Except Fault (α × Cursor)

def Parsed.map {α β : Type} (f : α → β) : Parsed α → Parsed β
  | .ok (x, k) => .ok (f x, k)
  | .error e => .error e

theorem Parsed.map_eq_ok {α β : Type} {f : α → β} {p : Parsed α} {y : β} {k : Cursor} :
    Parsed.map f p = .ok (y, k) ↔ ∃ x, p = .ok (x, k) ∧ f x = y := by
  match p with
  | .error e => simp [Parsed.map]
  | .ok (x, j) =>
    simp only [Parsed.map, Except.ok.injEq, Prod.mk.injEq]
    exact ⟨fun h => ⟨x, ⟨rfl, h.2⟩, h.1⟩, fun ⟨_, ⟨hx, hk⟩, hy⟩ => ⟨hx ▸ hy, hk⟩⟩

def enclosed (unclosed : Fault) : Option (List Char × Cursor) → Parsed String
  | some (t, k) => .ok (String.ofList t, k)
  | none => .error unclosed

def parsePhrase (c : Cursor) : Parsed String :=
  enclosed (.openPhrase c.offset) (Cursor.quotedFrom (c.offset + 1) (c.rest.drop 1))

def parsePattern (c : Cursor) : Parsed String :=
  enclosed (.openPattern c.offset) (Cursor.patternFrom (c.offset + 1) (c.rest.drop 1))

/-- The number of edits behind a `~`; none written means one. -/
def parseEdits (c : Cursor) : Parsed Fuzziness :=
  let (digits, k) := c.numeral
  if digits.isEmpty then .ok (.edits 1, k)
  else
    let n := Decimal.digitsValue digits.toList
    if digits.toList.all Decimal.isDigit && decide (n < 0x8000000000000000) then
      .ok (.edits (Int64.ofNat n), k)
    else .error (.edits digits c.offset)

def parseText (field : String) (word : List Char) (c : Cursor) : Parsed Query :=
  let query := fun fuzziness =>
    Query.onField (.text (String.ofList word) none none fuzziness none) field none
  match c.rest with
  | '~' :: r => (parseEdits ⟨c.offset + 1, r⟩).map fun f => query (some f)
  | _ => .ok (query none, c)

def halfRange {α : Type} (lower inclusive : Bool) (x : α) : Bounds α :=
  if lower then ⟨some x, none, some inclusive, none⟩ else ⟨none, some x, none, some inclusive⟩

def parseOperand (field : String) (lower inclusive : Bool) (c : Cursor) :
    Parsed Query :=
  match c.rest with
  | '"' :: _ =>
    (parsePhrase c).map fun date =>
      .onField (.dateRange (halfRange lower inclusive date) none) field none
  | _ =>
    let (word, k) := c.word
    match Decimal.read? (String.ofList word) with
    | some x => .ok (.onField (.numericRange (halfRange lower inclusive x)) field none, k)
    | none => .error (.missingOperand c.offset (String.ofList word))

def parseComparison (field : String) (lower : Bool) (c : Cursor) : Parsed Query :=
  match c.rest with
  | '=' :: r => parseOperand field lower true ⟨c.offset + 1, r⟩
  | _ => parseOperand field lower false c

def parseValue (field : String) (c : Cursor) : Parsed Query :=
  match c.rest with
  | [] => .error (.missingValue field c.offset)
  | '"' :: _ => (parsePhrase c).map fun t => .onField (.textPhrase t none none) field none
  | '/' :: _ => (parsePattern c).map fun p => .onField (.regexp p) field none
  | '>' :: r => parseComparison field true ⟨c.offset + 1, r⟩
  | '<' :: r => parseComparison field false ⟨c.offset + 1, r⟩
  | _ =>
    let (word, k) := c.word
    if word.isEmpty then .error (.missingValue field c.offset) else parseText field word k

def parseAtom (c : Cursor) : Parsed Query :=
  match c.rest with
  | '"' :: _ => (parsePhrase c).map fun t => .onField (.textPhrase t none none) "" none
  | '/' :: _ => (parsePattern c).map fun p => .onField (.regexp p) "" none
  | _ =>
    let (word, k) := c.word
    match k.rest with
    | ':' :: r =>
      if word.isEmpty then .error (.emptyField c.offset)
      else parseValue (String.ofList word) ⟨k.offset + 1, r⟩
    | _ =>
      if word.isEmpty then .error (.unexpected (k.rest.headD ' ') k.offset)
      else parseText "" word k

inductive Occur where
  | must
  | should
  | mustNot
  deriving DecidableEq

def parseBoost (q : Query) (c : Cursor) : Parsed Query :=
  match c.rest with
  | '^' :: r =>
    let start := c.offset + 1
    let (digits, k) := Cursor.numeral ⟨start, r⟩
    match Decimal.read? digits with
    | some b =>
      if b.isFinite && decide (0.0 ≤ b) then .ok (q.setBoost b, k)
      else .error (.boost digits start)
    | none => .error (.boost digits start)
  | _ => .ok (q, c)

def parseBody (c : Cursor) : Parsed Query :=
  match parseAtom c with
  | .ok (q, k) => parseBoost q k
  | .error e => .error e

/-- A sign has to be followed by its clause at once. -/
def parseSigned (sign : String) (offset : Nat) (c : Cursor) : Parsed Query :=
  match c.rest with
  | [] => .error (.danglingSign sign offset)
  | d :: _ => if isBlank d then .error (.danglingSign sign offset) else parseBody c

def parseClause (c : Cursor) : Parsed (Occur × Query) :=
  match c.rest with
  | '+' :: r => (parseSigned "+" c.offset ⟨c.offset + 1, r⟩).map fun q => (.must, q)
  | '-' :: r => (parseSigned "-" c.offset ⟨c.offset + 1, r⟩).map fun q => (.mustNot, q)
  | _ => (parseBody c).map fun q => (.should, q)

theorem blankFrom_length (offset : Nat) (cs : List Char) :
    (Cursor.blankFrom offset cs).rest.length ≤ cs.length := by
  induction cs generalizing offset with
  | nil => simp [Cursor.blankFrom]
  | cons c r ih =>
    rw [Cursor.blankFrom]
    split
    · exact Nat.le_succ_of_le (ih _)
    · exact Nat.le_refl _

theorem wordFrom_length (offset : Nat) (cs : List Char) :
    (Cursor.wordFrom offset cs).2.rest.length + (Cursor.wordFrom offset cs).1.length ≤
      cs.length := by
  fun_induction Cursor.wordFrom offset cs <;> simp_all <;> omega

theorem numeral_length (c : Cursor) : c.numeral.2.rest.length ≤ c.rest.length :=
  (List.dropWhile_suffix _).length_le

theorem enclosed_length {mark : Char} {unclosed : Fault} {read : Option (List Char × Cursor)}
    {c k : Cursor} {t : String}
    (closes : read.map (·.2) = Cursor.closing mark (c.offset + 1) (c.rest.drop 1))
    (h : enclosed unclosed read = .ok (t, k)) : k.rest.length < c.rest.length := by
  cases read with
  | none => cases h
  | some read =>
    obtain ⟨word, j⟩ := read
    cases h
    have shorter : k.rest.length < (c.rest.drop 1).length := Cursor.closing_length closes.symm
    rw [List.length_drop] at shorter
    omega

theorem parsePhrase_length {c k : Cursor} {t : String} (h : parsePhrase c = .ok (t, k)) :
    k.rest.length < c.rest.length := enclosed_length (Cursor.quotedFrom_closing _ _) h

theorem parsePattern_length {c k : Cursor} {t : String} (h : parsePattern c = .ok (t, k)) :
    k.rest.length < c.rest.length := enclosed_length (Cursor.patternFrom_closing _ _) h

theorem parseEdits_length {c k : Cursor} {f : Fuzziness} (h : parseEdits c = .ok (f, k)) :
    k.rest.length ≤ c.rest.length := by
  have := numeral_length c
  unfold parseEdits at h
  simp only at h
  split at h
  · simp only [Except.ok.injEq, Prod.mk.injEq] at h
    exact h.2 ▸ this
  · split at h
    · simp only [Except.ok.injEq, Prod.mk.injEq] at h
      exact h.2 ▸ this
    · simp at h

theorem parseText_length {field : String} {word : List Char} {c k : Cursor} {q : Query}
    (h : parseText field word c = .ok (q, k)) : k.rest.length ≤ c.rest.length := by
  unfold parseText at h
  simp only at h
  split at h
  · rename_i r heq
    obtain ⟨f, hf, -⟩ := Parsed.map_eq_ok.1 h
    have := parseEdits_length hf
    simp only [heq, List.length_cons]
    exact Nat.le_succ_of_le this
  · simp only [Except.ok.injEq, Prod.mk.injEq] at h
    exact Nat.le_of_eq (by rw [h.2])

theorem word_length (c : Cursor) : c.word.2.rest.length + c.word.1.length ≤ c.rest.length :=
  wordFrom_length c.offset c.rest

theorem parseOperand_length {field : String} {lower inclusive : Bool} {c k : Cursor} {q : Query}
    (h : parseOperand field lower inclusive c = .ok (q, k)) : k.rest.length ≤ c.rest.length := by
  unfold parseOperand at h
  split at h
  · obtain ⟨t, ht, -⟩ := Parsed.map_eq_ok.1 h
    exact Nat.le_of_lt (parsePhrase_length ht)
  · have := word_length c
    simp only at h
    split at h
    · simp only [Except.ok.injEq, Prod.mk.injEq] at h
      rw [← h.2]
      omega
    · simp at h

theorem parseComparison_length {field : String} {lower : Bool} {c k : Cursor} {q : Query}
    (h : parseComparison field lower c = .ok (q, k)) : k.rest.length ≤ c.rest.length := by
  unfold parseComparison at h
  split at h
  · rename_i r heq
    have := parseOperand_length h
    simp only [heq, List.length_cons]
    exact Nat.le_succ_of_le this
  · exact parseOperand_length h

theorem parseValue_length {field : String} {c k : Cursor} {q : Query}
    (h : parseValue field c = .ok (q, k)) : k.rest.length ≤ c.rest.length := by
  unfold parseValue at h
  split at h
  · simp at h
  · obtain ⟨t, ht, -⟩ := Parsed.map_eq_ok.1 h
    exact Nat.le_of_lt (parsePhrase_length ht)
  · obtain ⟨t, ht, -⟩ := Parsed.map_eq_ok.1 h
    exact Nat.le_of_lt (parsePattern_length ht)
  · rename_i r heq
    have := parseComparison_length h
    simp only [heq, List.length_cons]
    exact Nat.le_succ_of_le this
  · rename_i r heq
    have := parseComparison_length h
    simp only [heq, List.length_cons]
    exact Nat.le_succ_of_le this
  · have := word_length c
    simp only at h
    split at h
    · simp at h
    · have := parseText_length h
      omega

theorem parseAtom_length {c k : Cursor} {q : Query} (h : parseAtom c = .ok (q, k)) :
    k.rest.length < c.rest.length := by
  unfold parseAtom at h
  split at h
  · obtain ⟨t, ht, -⟩ := Parsed.map_eq_ok.1 h
    exact parsePhrase_length ht
  · obtain ⟨t, ht, -⟩ := Parsed.map_eq_ok.1 h
    exact parsePattern_length ht
  · have hw := word_length c
    simp only at h
    split at h
    · rename_i r heq
      rw [heq] at hw
      split at h
      · simp at h
      · have := parseValue_length h
        simp only [List.length_cons] at hw this
        omega
    · split at h
      · simp at h
      · rename_i hne
        have := parseText_length h
        have : 0 < c.word.1.length :=
          List.length_pos_iff.2 fun he => hne (List.isEmpty_iff.2 he)
        omega

theorem parseBoost_length {p q : Query} {c k : Cursor} (h : parseBoost p c = .ok (q, k)) :
    k.rest.length ≤ c.rest.length := by
  unfold parseBoost at h
  split at h
  · rename_i r heq
    have := numeral_length ⟨c.offset + 1, r⟩
    simp only at h this
    split at h
    · split at h
      · simp only [Except.ok.injEq, Prod.mk.injEq] at h
        rw [← h.2, heq]
        exact Nat.le_succ_of_le this
      · simp at h
    · simp at h
  · simp only [Except.ok.injEq, Prod.mk.injEq] at h
    exact Nat.le_of_eq (by rw [h.2])

theorem parseBody_length {c k : Cursor} {q : Query} (h : parseBody c = .ok (q, k)) :
    k.rest.length < c.rest.length := by
  unfold parseBody at h
  split at h
  · rename_i p j hp
    exact Nat.lt_of_le_of_lt (parseBoost_length h) (parseAtom_length hp)
  · simp at h

theorem parseSigned_length {sign : String} {offset : Nat} {c k : Cursor} {q : Query}
    (h : parseSigned sign offset c = .ok (q, k)) : k.rest.length < c.rest.length := by
  unfold parseSigned at h
  split at h
  · simp at h
  · split at h
    · simp at h
    · exact parseBody_length h

theorem parseClause_length {c k : Cursor} {clause : Occur × Query}
    (h : parseClause c = .ok (clause, k)) : k.rest.length < c.rest.length := by
  unfold parseClause at h
  split at h
  · rename_i r heq
    obtain ⟨q, hq, -⟩ := Parsed.map_eq_ok.1 h
    have := parseSigned_length hq
    simp only [heq, List.length_cons]
    exact Nat.lt_succ_of_lt this
  · rename_i r heq
    obtain ⟨q, hq, -⟩ := Parsed.map_eq_ok.1 h
    have := parseSigned_length hq
    simp only [heq, List.length_cons]
    exact Nat.lt_succ_of_lt this
  · obtain ⟨q, hq, -⟩ := Parsed.map_eq_ok.1 h
    exact parseBody_length hq

def parseClauses (c : Cursor) : Except Fault (List (Occur × Query)) :=
  let c := c.skipBlank
  if c.rest.isEmpty then .ok []
  else
    match _h : parseClause c with
    | .error e => .error e
    | .ok (clause, k) => (parseClauses k).map (clause :: ·)
termination_by c.rest.length
decreasing_by exact Nat.lt_of_lt_of_le (parseClause_length _h) (blankFrom_length _ _)

def clausesOf (occur : Occur) (clauses : List (Occur × Query)) : List Query :=
  (clauses.filter fun c => c.1 == occur).map (·.2)

def group (make : List Query → Query) (clauses : List Query) : Option Query :=
  if clauses.isEmpty then none else some (make clauses)

/-- The query of a list of clauses.  Of the optional ones at least one has to match, unless
something is required. -/
def assemble (clauses : List (Occur × Query)) : Query :=
  if clauses.isEmpty then .nothing none
  else
    let must := clausesOf .must clauses
    let least := if must.isEmpty then some 1 else none
    .boolean (group (.conjunction · none) must)
      (group (.disjunction · least none) (clausesOf .should clauses))
      (group (.disjunction · none none) (clausesOf .mustNot clauses)) none

end Grammar

structure GrammarError where
  text : String
  fault : Grammar.Fault

/-- The part of the message that does not repeat the text. -/
def GrammarError.reason (e : GrammarError) : String := e.fault.message

def GrammarError.message (e : GrammarError) : String :=
  s!"could not parse '{e.text}': {e.reason}"

/-- The query that a query string denotes. -/
def parseQueryString (text : String) : Except GrammarError Query :=
  match Grammar.parseClauses ⟨0, text.toList⟩ with
  | .ok clauses => .ok (Grammar.assemble clauses)
  | .error fault => .error ⟨text, fault⟩

end SearchQuery
