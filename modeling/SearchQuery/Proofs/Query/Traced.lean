import SearchQuery.Proofs.Query.Juxtaposed

/-!
# The calls of the parser

A run of the parser with the calls of its procedures, in their order, and with the steps of the
loops that go over characters.  Apart from the calls it yields what the parser yields
(`Traced.clauses_result`).
-/

set_option autoImplicit false
namespace SearchQuery.Grammar

inductive Procedure where
  | blank
  | clause
  | signed
  | body
  | atom
  | value
  | comparison
  | operand
  | word
  | text
  | edits
  | boost
  | phrase
  | pattern
  | numeral
  deriving DecidableEq

/-- A call of a procedure or a step of its loop, and the place where it looks at the text. -/
structure Call where
  procedure : Procedure
  cursor : Cursor

/-- What a procedure yields, and the calls that were made for it. -/
structure Traced (α : Type) where
  calls : List Call
  result : Except Fault α

namespace Traced
variable {α β : Type}

def pure (result : Except Fault α) : Traced α := ⟨[], result⟩

def after (calls : List Call) (t : Traced α) : Traced α := ⟨calls ++ t.calls, t.result⟩

def enter (p : Procedure) (c : Cursor) (t : Traced α) : Traced α := after [⟨p, c⟩] t

def map (f : α → β) (t : Traced (α × Cursor)) : Traced (β × Cursor) :=
  ⟨t.calls, Parsed.map f t.result⟩

/-- The steps of a loop to the first character at which it stops.  Where a backslash escapes the
next character, the loop looks at that too. -/
def scan (p : Procedure) (stops : Char → Bool) (escapes : Bool) (offset : Nat) :
    List Char → List Call
  | [] => [⟨p, ⟨offset, []⟩⟩]
  | c :: r =>
    if escapes && c == '\\' then
      match r with
      | [] => [⟨p, ⟨offset, [c]⟩⟩, ⟨p, ⟨offset + 1, []⟩⟩]
      | d :: r =>
        ⟨p, ⟨offset, c :: d :: r⟩⟩ :: ⟨p, ⟨offset + 1, d :: r⟩⟩ ::
          scan p stops escapes (offset + 1 + d.utf8Size) r
    else if stops c then [⟨p, ⟨offset, c :: r⟩⟩]
    else ⟨p, ⟨offset, c :: r⟩⟩ :: scan p stops escapes (offset + c.utf8Size) r

def blank (c : Cursor) : List Call := scan .blank (!isBlank ·) false c.offset c.rest

def word (c : Cursor) : List Call := scan .word Cursor.endsWord true c.offset c.rest

def numeral (c : Cursor) : List Call :=
  scan .numeral (!Cursor.isNumeralChar ·) false c.offset c.rest

def phrase (c : Cursor) : Traced (String × Cursor) :=
  enter .phrase c <|
    after (scan .phrase (· == '"') true (c.offset + 1) (c.rest.drop 1)) <| pure (parsePhrase c)

def pattern (c : Cursor) : Traced (String × Cursor) :=
  enter .pattern c <|
    after (scan .pattern (· == '/') true (c.offset + 1) (c.rest.drop 1)) <| pure (parsePattern c)

def edits (c : Cursor) : Traced (Fuzziness × Cursor) :=
  enter .edits c <| after (numeral c) <| pure (parseEdits c)

def text (field : String) (word : List Char) (c : Cursor) : Traced (Query × Cursor) :=
  let query := fun fuzziness =>
    Query.onField (.text (String.ofList word) none none fuzziness none) field none
  enter .text c <|
    match c.rest with
    | '~' :: r => (edits ⟨c.offset + 1, r⟩).map fun f => query (some f)
    | _ => pure (.ok (query none, c))

def operand (field : String) (lower inclusive : Bool) (c : Cursor) : Traced (Query × Cursor) :=
  enter .operand c <|
    match c.rest with
    | '"' :: _ =>
      (phrase c).map fun date =>
        .onField (.dateRange (halfRange lower inclusive date) none) field none
    | _ =>
      after (word c) <|
        match Decimal.read? (String.ofList c.word.1) with
        | some x =>
          pure (.ok (.onField (.numericRange (halfRange lower inclusive x)) field none, c.word.2))
        | none => pure (.error (.missingOperand c.offset (String.ofList c.word.1)))

def comparison (field : String) (lower : Bool) (c : Cursor) : Traced (Query × Cursor) :=
  enter .comparison c <|
    match c.rest with
    | '=' :: r => operand field lower true ⟨c.offset + 1, r⟩
    | _ => operand field lower false c

def value (field : String) (c : Cursor) : Traced (Query × Cursor) :=
  enter .value c <|
    match c.rest with
    | [] => pure (.error (.missingValue field c.offset))
    | '"' :: _ => (phrase c).map fun t => .onField (.textPhrase t none none) field none
    | '/' :: _ => (pattern c).map fun p => .onField (.regexp p) field none
    | '>' :: r => comparison field true ⟨c.offset + 1, r⟩
    | '<' :: r => comparison field false ⟨c.offset + 1, r⟩
    | _ =>
      after (word c) <|
        if c.word.1.isEmpty then pure (.error (.missingValue field c.offset))
        else text field c.word.1 c.word.2

def behind (word : List Char) (start : Nat) (k : Cursor) : Traced (Query × Cursor) :=
  match k.rest with
  | ':' :: r =>
    if word.isEmpty then pure (.error (.emptyField start))
    else value (String.ofList word) ⟨k.offset + 1, r⟩
  | _ =>
    if word.isEmpty then pure (.error (.unexpected (k.rest.headD ' ') k.offset))
    else text "" word k

def atom (c : Cursor) : Traced (Query × Cursor) :=
  enter .atom c <|
    match c.rest with
    | '"' :: _ => (phrase c).map fun t => .onField (.textPhrase t none none) "" none
    | '/' :: _ => (pattern c).map fun p => .onField (.regexp p) "" none
    | _ => after (word c) <| behind c.word.1 c.offset c.word.2

def boost (q : Query) (c : Cursor) : Traced (Query × Cursor) :=
  enter .boost c <|
    match c.rest with
    | '^' :: r => after (numeral ⟨c.offset + 1, r⟩) <| pure (parseBoost q c)
    | _ => pure (.ok (q, c))

def body (c : Cursor) : Traced (Query × Cursor) :=
  enter .body c <|
    match (atom c).result with
    | .ok (q, k) => after (atom c).calls (boost q k)
    | .error e => after (atom c).calls (pure (.error e))

def signed (sign : String) (offset : Nat) (c : Cursor) : Traced (Query × Cursor) :=
  enter .signed c <|
    match c.rest with
    | [] => pure (.error (.danglingSign sign offset))
    | d :: _ => if isBlank d then pure (.error (.danglingSign sign offset)) else body c

def clause (c : Cursor) : Traced ((Occur × Query) × Cursor) :=
  match c.rest with
  | '+' :: r => (signed "+" c.offset ⟨c.offset + 1, r⟩).map fun q => (.must, q)
  | '-' :: r => (signed "-" c.offset ⟨c.offset + 1, r⟩).map fun q => (.mustNot, q)
  | _ => (body c).map fun q => (.should, q)

@[simp] theorem after_result (calls : List Call) (t : Traced α) :
    (after calls t).result = t.result := rfl

@[simp] theorem enter_result (p : Procedure) (c : Cursor) (t : Traced α) :
    (enter p c t).result = t.result := rfl

@[simp] theorem map_result (f : α → β) (t : Traced (α × Cursor)) :
    (t.map f).result = Parsed.map f t.result := rfl

@[simp] theorem text_result (field : String) (word : List Char) (c : Cursor) :
    (text field word c).result = parseText field word c := by
  obtain ⟨offset, cs⟩ := c
  unfold text
  rw [enter_result]
  split
  · rename_i r tilde
    obtain rfl : cs = '~' :: r := tilde
    rfl
  · rename_i other
    exact (parseText_bare field word other offset).symm

@[simp] theorem operand_result (field : String) (lower inclusive : Bool) (c : Cursor) :
    (operand field lower inclusive c).result = parseOperand field lower inclusive c := by
  obtain ⟨offset, cs⟩ := c
  unfold operand
  rw [enter_result]
  split
  · rename_i r quote
    obtain rfl : cs = '"' :: r := quote
    rfl
  · rename_i other
    rw [parseOperand_number field lower inclusive other, numberRange, after_result]
    split <;> rename_i read <;> rw [read] <;> rfl

@[simp] theorem comparison_result (field : String) (lower : Bool) (c : Cursor) :
    (comparison field lower c).result = parseComparison field lower c := by
  obtain ⟨offset, cs⟩ := c
  unfold comparison
  rw [enter_result]
  split
  · rename_i r equals
    obtain rfl : cs = '=' :: r := equals
    exact operand_result ..
  · rename_i other
    rw [parseComparison_strict field lower other]
    exact operand_result ..

@[simp] theorem value_result (field : String) (c : Cursor) :
    (value field c).result = parseValue field c := by
  obtain ⟨offset, cs⟩ := c
  unfold value
  rw [enter_result]
  split
  · rename_i none
    obtain rfl : cs = [] := none
    rfl
  · rename_i r quote
    obtain rfl : cs = '"' :: r := quote
    rfl
  · rename_i r slash
    obtain rfl : cs = '/' :: r := slash
    rfl
  · rename_i r above
    obtain rfl : cs = '>' :: r := above
    exact comparison_result ..
  · rename_i r below
    obtain rfl : cs = '<' :: r := below
    exact comparison_result ..
  · rename_i some quote slash above below
    rw [parseValue_bare field some quote slash above below, after_result, apply_ite result,
      text_result]
    rfl

@[simp] theorem behind_result (word : List Char) (start : Nat) (k : Cursor) :
    (behind word start k).result = behindWord word start k := by
  obtain ⟨offset, cs⟩ := k
  unfold behind
  split
  · rename_i r colon
    obtain rfl : cs = ':' :: r := colon
    rw [apply_ite result, value_result]
    rfl
  · rename_i other
    rw [apply_ite result, text_result]
    unfold behindWord
    symm
    split
    · rename_i r colon
      exact absurd colon (other r)
    · rfl

@[simp] theorem atom_result (c : Cursor) : (atom c).result = parseAtom c := by
  obtain ⟨offset, cs⟩ := c
  unfold atom
  rw [enter_result]
  split
  · rename_i r quote
    obtain rfl : cs = '"' :: r := quote
    rfl
  · rename_i r slash
    obtain rfl : cs = '/' :: r := slash
    rfl
  · rename_i quote slash
    rw [parseAtom_bare quote slash, after_result, behind_result]

@[simp] theorem boost_result (q : Query) (c : Cursor) : (boost q c).result = parseBoost q c := by
  obtain ⟨offset, cs⟩ := c
  unfold boost
  rw [enter_result]
  split
  · rfl
  · rename_i other
    exact (parseBoost_bare q other offset).symm

@[simp] theorem body_result (c : Cursor) : (body c).result = parseBody c := by
  unfold body parseBody
  rw [enter_result, atom_result]
  cases parseAtom c with
  | error e => rfl
  | ok read => exact boost_result read.1 read.2

@[simp] theorem signed_result (sign : String) (offset : Nat) (c : Cursor) :
    (signed sign offset c).result = parseSigned sign offset c := by
  unfold signed parseSigned
  rw [enter_result]
  cases c.rest with
  | nil => rfl
  | cons d r =>
    dsimp only
    rw [apply_ite result, body_result]
    rfl

@[simp] theorem clause_result (c : Cursor) : (clause c).result = parseClause c := by
  obtain ⟨offset, cs⟩ := c
  unfold clause
  split
  · rename_i r plus
    obtain rfl : cs = '+' :: r := plus
    rw [map_result, signed_result]
    rfl
  · rename_i r minus
    obtain rfl : cs = '-' :: r := minus
    rw [map_result, signed_result]
    rfl
  · rename_i plus minus
    rw [map_result, body_result, parseClause_unsigned plus minus]

/-- The calls for the clauses from the cursor to the end of the text. -/
def clauses (c : Cursor) : Traced (List (Occur × Query)) :=
  let k := c.skipBlank
  after (blank c) <|
    if k.rest.isEmpty then pure (.ok [])
    else
      enter .clause k <| after (clause k).calls <|
        match _h : (clause k).result with
        | .error e => pure (.error e)
        | .ok (first, j) => ⟨(clauses j).calls, (clauses j).result.map (first :: ·)⟩
termination_by c.rest.length
decreasing_by
  all_goals
    rw [clause_result] at _h
    exact Nat.lt_of_lt_of_le (parseClause_length _h) (blankFrom_length _ _)

section Clauses
variable {c : Cursor}

theorem clauses_nil (none : c.skipBlank.rest.isEmpty = true) :
    clauses c = after (blank c) (pure (.ok [])) := by
  rw [clauses]
  simp only [none, if_true]

theorem clauses_error (some : ¬c.skipBlank.rest.isEmpty = true) {e : Fault}
    (h : parseClause c.skipBlank = .error e) :
    clauses c = after (blank c) (enter .clause c.skipBlank
      (after (clause c.skipBlank).calls (pure (.error e)))) := by
  rw [clauses]
  simp only [if_neg some]
  split
  · rename_i e' h'
    rw [clause_result, h] at h'
    cases h'
    rfl
  · rename_i h'
    rw [clause_result, h] at h'
    cases h'

theorem clauses_cons (some : ¬c.skipBlank.rest.isEmpty = true) {first : Occur × Query}
    {k : Cursor} (h : parseClause c.skipBlank = .ok (first, k)) :
    clauses c = after (blank c) (enter .clause c.skipBlank (after (clause c.skipBlank).calls
      ⟨(clauses k).calls, (clauses k).result.map (first :: ·)⟩)) := by
  rw [clauses]
  simp only [if_neg some]
  split
  · rename_i h'
    rw [clause_result, h] at h'
    cases h'
  · rename_i h'
    rw [clause_result, h] at h'
    cases h'
    rfl

end Clauses

theorem clauses_result (c : Cursor) : (clauses c).result = parseClauses c := by
  fun_induction parseClauses c with
  | case1 c k none =>
    rw [clauses_nil none]
    rfl
  | case2 c k some e h =>
    rw [clauses_error some h]
    rfl
  | case3 c k some first j h ih =>
    rw [clauses_cons some h, ← ih]
    rfl

end Traced

end SearchQuery.Grammar
