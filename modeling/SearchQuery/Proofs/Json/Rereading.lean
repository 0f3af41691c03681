import SearchQuery.Proofs.Json.Strings
import SearchQuery.Proofs.Outcome

/-!
# Reading what is written

The indented text of a value with finite numbers is a document if and only if the value nests to a
depth of at most 127.  The value that is read has the same members and items in the same order.
-/

set_option autoImplicit false
namespace SearchQuery.Json

mutual

def reread : Json → Json
  | .number n => .number n.reread
  | .array items => .array (rereadItems items)
  | .object members => .object (rereadMembers members)
  | v => v

def rereadItems : List Json → List Json
  | [] => []
  | v :: rest => v.reread :: rereadItems rest

def rereadMembers : List (String × Json) → List (String × Json)
  | [] => []
  | (k, v) :: rest => (k, v.reread) :: rereadMembers rest

end

def AreSpaces (bytes : List UInt8) : Prop := ∀ b ∈ bytes, Cursor.isSpace b = true

theorem areSpaces_nil : AreSpaces [] := fun _ h => nomatch h

theorem skipSpace_spaces {gap : List UInt8} (h : AreSpaces gap) (r : List UInt8) (p : Position) :
    ∃ p', Cursor.skipSpace ⟨gap ++ r, p⟩ = Cursor.skipSpace ⟨r, p'⟩ := by
  induction gap generalizing p with
  | nil => exact ⟨p, rfl⟩
  | cons b gap ih =>
    obtain ⟨p', rest⟩ := ih (fun c hc => h c (List.mem_cons_of_mem b hc)) (p.advance b)
    refine ⟨p', .trans ?_ rest⟩
    rw [List.cons_append, Cursor.skipSpace, Cursor.skipFrom, h b List.mem_cons_self, if_pos rfl]
    rfl

theorem skipSpace_behind {gap : List UInt8} (h : AreSpaces gap) {b : UInt8}
    (hb : Cursor.isSpace b = false) (r : List UInt8) (p : Position) :
    ∃ p', Cursor.skipSpace ⟨gap ++ b :: r, p⟩ = ⟨b :: r, p'⟩ := by
  obtain ⟨p', skipped⟩ := skipSpace_spaces h (b :: r) p
  exact ⟨p', skipped.trans (skipSpace_cons hb r p')⟩

theorem areSpaces_lineStart (level : Nat) : AreSpaces (bytesOf (lineStart level)) := by
  rw [lineStart, bytesOf_append, bytesOf_ofList, bytesOf_ofList]
  intro b hb
  rcases List.mem_append.1 hb with newline | blanks
  · rw [List.mem_singleton.1 (show b ∈ [10] from newline)]
    rfl
  · obtain ⟨c, hc, hb⟩ := List.mem_flatMap.1 blanks
    rw [List.eq_of_mem_replicate hc] at hb
    rw [List.mem_singleton.1 (show b ∈ [32] from hb)]
    rfl

def moreItems (level : Nat) : List Json → List UInt8
  | [] => []
  | v :: rest => 44 :: bytesOf (indentItems level (v :: rest))

def moreMembers (level : Nat) : List (String × Json) → List UInt8
  | [] => []
  | m :: rest => 44 :: bytesOf (indentMembers level (m :: rest))

theorem bytesOf_indentItems (level : Nat) (v : Json) (rest : List Json) :
    bytesOf (indentItems level (v :: rest)) =
      bytesOf (lineStart level) ++ (bytesOf (writeIndented level v) ++ moreItems level rest) := by
  cases rest with
  | nil => rw [indentItems, bytesOf_append, moreItems, List.append_nil]
  | cons w rest =>
    rw [indentItems, bytesOf_append, bytesOf_append, bytesOf_append, List.append_assoc,
      List.append_assoc]
    · rfl
    · exact List.cons_ne_nil w rest

theorem bytesOf_indentMembers (level : Nat) (key : String) (v : Json)
    (rest : List (String × Json)) : bytesOf (indentMembers level ((key, v) :: rest)) =
      bytesOf (lineStart level) ++ (bytesOf (writeString key) ++
        58 :: 32 :: (bytesOf (writeIndented level v) ++ moreMembers level rest)) := by
  cases rest with
  | nil =>
    rw [indentMembers, bytesOf_append, bytesOf_append, bytesOf_append, moreMembers,
      List.append_nil, List.append_assoc, List.append_assoc]
    rfl
  | cons m rest =>
    rw [indentMembers, bytesOf_append, bytesOf_append, bytesOf_append, bytesOf_append,
      bytesOf_append, List.append_assoc, List.append_assoc, List.append_assoc, List.append_assoc]
    · rfl
    · exact List.cons_ne_nil m rest

theorem bytesOf_array (level : Nat) (v : Json) (rest : List Json) :
    bytesOf (writeIndented level (.array (v :: rest))) =
      91 :: (bytesOf (indentItems (level + 1) (v :: rest)) ++
        (bytesOf (lineStart level) ++ [93])) := by
  rw [writeIndented, bytesOf_append, bytesOf_append, bytesOf_append, List.append_assoc,
    List.append_assoc]
  · rfl
  · exact List.cons_ne_nil v rest

theorem bytesOf_object (level : Nat) (m : String × Json) (rest : List (String × Json)) :
    bytesOf (writeIndented level (.object (m :: rest))) =
      123 :: (bytesOf (indentMembers (level + 1) (m :: rest)) ++
        (bytesOf (lineStart level) ++ [125])) := by
  rw [writeIndented, bytesOf_append, bytesOf_append, bytesOf_append, List.append_assoc,
    List.append_assoc]
  · rfl
  · exact List.cons_ne_nil m rest

/-- The byte begins a value: it is neither a space nor the end of a list. -/
def StartsValue (b : UInt8) : Prop := Cursor.isSpace b = false ∧ b ≠ 93

instance (b : UInt8) : Decidable (StartsValue b) := instDecidableAnd

theorem startsValue_of_isDigitByte {b : UInt8} (h : isDigitByte b = true) : StartsValue b :=
  ⟨isSpace_of_isDigitByte h, ne_of_isDigitByte h rfl⟩

section Steps
variable {gap : List UInt8} (h : AreSpaces gap)
include h

theorem hasItem_first {b : UInt8} (hb : StartsValue b) (r : List UInt8) (p : Position) :
    ∃ p', Cursor.hasItem ⟨gap ++ b :: r, p⟩ true = .ok (true, ⟨b :: r, p'⟩) := by
  obtain ⟨p', skipped⟩ := skipSpace_behind h hb.1 r p
  refine ⟨p', ?_⟩
  rw [Cursor.hasItem, skipped]
  dsimp only
  rw [if_neg hb.2, if_pos rfl]

theorem hasItem_comma {b : UInt8} (hb : StartsValue b) (r : List UInt8) (p : Position) :
    ∃ p', Cursor.hasItem ⟨44 :: (gap ++ b :: r), p⟩ false = .ok (true, ⟨b :: r, p'⟩) := by
  obtain ⟨p', skipped⟩ := skipSpace_behind h hb.1 r (p.advance 44)
  refine ⟨p', ?_⟩
  rw [Cursor.hasItem, skipSpace_cons rfl]
  dsimp only
  rw [if_neg (by decide), if_neg Bool.false_ne_true, if_pos rfl, Cursor.next, skipped]
  dsimp only
  rw [if_neg hb.2]

theorem hasItem_end (first : Bool) (r : List UInt8) (p : Position) :
    ∃ p', Cursor.hasItem ⟨gap ++ 93 :: r, p⟩ first = .ok (false, ⟨93 :: r, p'⟩) := by
  obtain ⟨p', skipped⟩ := skipSpace_behind h (b := 93) rfl r p
  refine ⟨p', ?_⟩
  rw [Cursor.hasItem, skipped]
  exact if_pos rfl

theorem hasMember_first (r : List UInt8) (p : Position) :
    ∃ p', Cursor.hasMember ⟨gap ++ 34 :: r, p⟩ true = .ok (true, ⟨34 :: r, p'⟩) := by
  obtain ⟨p', skipped⟩ := skipSpace_behind h (b := 34) rfl r p
  refine ⟨p', ?_⟩
  rw [Cursor.hasMember, skipped]
  rfl

theorem hasMember_comma (r : List UInt8) (p : Position) :
    ∃ p', Cursor.hasMember ⟨44 :: (gap ++ 34 :: r), p⟩ false = .ok (true, ⟨34 :: r, p'⟩) := by
  obtain ⟨p', skipped⟩ := skipSpace_behind h (b := 34) rfl r (p.advance 44)
  refine ⟨p', ?_⟩
  rw [Cursor.hasMember, skipSpace_cons rfl]
  dsimp only
  rw [if_neg (by decide), if_neg Bool.false_ne_true, if_pos rfl, Cursor.next, skipped]
  rfl

theorem hasMember_end (first : Bool) (r : List UInt8) (p : Position) :
    ∃ p', Cursor.hasMember ⟨gap ++ 125 :: r, p⟩ first = .ok (false, ⟨125 :: r, p'⟩) := by
  obtain ⟨p', skipped⟩ := skipSpace_behind h (b := 125) rfl r p
  refine ⟨p', ?_⟩
  rw [Cursor.hasMember, skipped]
  exact if_pos rfl

end Steps

/-- A step yields the value and stops at the tail if the value is not too deep, and fails
otherwise. -/
def Delivers {α : Type} (step : Except SyntaxError (α × Cursor)) (fits : Prop) (value : α)
    (tail : List UInt8) : Prop :=
  (fits → ∃ p, step = .ok (value, ⟨tail, p⟩)) ∧ (¬ fits → ∃ e, step = .error e)

theorem Delivers.of_ok {α : Type} {step : Step α} {fits : Prop} {value : α} {tail : List UInt8}
    (always : fits) (h : ∃ p, step = .ok (value, ⟨tail, p⟩)) : Delivers step fits value tail :=
  ⟨fun _ => h, fun deep => absurd always deep⟩

theorem Delivers.map {α β : Type} {step : Step α} {fits : Prop} {value : α} {tail : List UInt8}
    (h : Delivers step fits value tail) (f : α → β) :
    Delivers (step.map fun (a, c) => (f a, c)) fits (f value) tail := by
  constructor
  · intro fit
    obtain ⟨p, read⟩ := h.1 fit
    exact ⟨p, by rw [read]; rfl⟩
  · intro deep
    obtain ⟨e, fault⟩ := h.2 deep
    exact ⟨e, by rw [fault]; rfl⟩

theorem Delivers.bind {α β γ : Type} {step : Except SyntaxError (α × Cursor)}
    {more : Cursor → Except SyntaxError (β × Cursor)} {P Q : Prop} {a : α} {b : β}
    {t u : List UInt8} (h : Delivers step P a t) (rest : ∀ p, Delivers (more ⟨t, p⟩) Q b u)
    (f : α → β → γ) : Delivers (step >>= fun (a, c) => more c >>= fun (b, c) => .ok (f a b, c))
      (P ∧ Q) (f a b) u := by
  constructor
  · rintro ⟨fit, others⟩
    obtain ⟨p, read⟩ := h.1 fit
    obtain ⟨p', read'⟩ := (rest p).1 others
    refine ⟨p', ?_⟩
    rw [read, ok_bind]
    dsimp only
    rw [read']
    rfl
  · intro deep
    by_cases fit : P
    · obtain ⟨p, read⟩ := h.1 fit
      obtain ⟨e, fault⟩ := (rest p).2 fun others => deep ⟨fit, others⟩
      refine ⟨e, ?_⟩
      rw [read, ok_bind]
      dsimp only
      rw [fault]
      rfl
    · obtain ⟨e, fault⟩ := h.2 fit
      refine ⟨e, ?_⟩
      rw [fault]
      rfl

theorem readItems_more {fuel depth : Nat} {first : Bool} {c c' : Cursor}
    (h : c.hasItem first = .ok (true, c')) : readItems (fuel + 1) depth first c = do
      let (v, c) ← readValue fuel depth c'
      let (rest, c) ← readItems fuel depth false c
      return (v :: rest, c) := by
  rw [readItems, h]
  rfl

theorem readItems_end {fuel depth : Nat} {first : Bool} {c c' : Cursor}
    (h : c.hasItem first = .ok (false, c')) :
    readItems (fuel + 1) depth first c = .ok ([], c'.next) := by
  rw [readItems, h]
  rfl

theorem readMembers_more (fuel depth : Nat) {first : Bool} {c c' : Cursor} {key : String}
    {r : List UInt8} {p : Position} (h : c.hasMember first = .ok (true, c'))
    (hkey : c'.string = .ok (key, ⟨58 :: 32 :: r, p⟩)) :
    ∃ p', readMembers (fuel + 2) depth first c = do
      let (v, c) ← readValue (fuel + 1) depth ⟨r, p'⟩
      let (rest, c) ← readMembers (fuel + 1) depth false c
      return ((key, v) :: rest, c) := by
  refine ⟨(p.advance 58).advance 32, ?_⟩
  rw [readMembers, h, ok_bind]
  dsimp only
  rw [if_pos rfl, hkey, ok_bind]
  dsimp only
  have colon : Cursor.colon ⟨58 :: 32 :: r, p⟩ = .ok ((), ⟨32 :: r, p.advance 58⟩) := rfl
  have space : readValue (fuel + 1) depth ⟨32 :: r, p.advance 58⟩ =
      readValue (fuel + 1) depth ⟨r, (p.advance 58).advance 32⟩ := by
    rw [readValue, readValue]
    rfl
  rw [colon, ok_bind]
  dsimp only
  rw [space]

theorem readMembers_end {fuel depth : Nat} {first : Bool} {c c' : Cursor}
    (h : c.hasMember first = .ok (false, c')) :
    readMembers (fuel + 1) depth first c = .ok ([], c'.next) := by
  rw [readMembers, h]
  rfl

theorem readValue_array (fuel depth : Nat) (r : List UInt8) (p : Position) :
    readValue (fuel + 1) depth ⟨91 :: r, p⟩ =
      if depth ≤ 1 then Cursor.failAtNext ⟨91 :: r, p⟩ .tooDeep
      else (readItems fuel (depth - 1) true ⟨r, p.advance 91⟩).map fun (v, c) => (.array v, c) := by
  rw [readValue]
  rfl

theorem readValue_object (fuel depth : Nat) (r : List UInt8) (p : Position) :
    readValue (fuel + 1) depth ⟨123 :: r, p⟩ =
      if depth ≤ 1 then Cursor.failAtNext ⟨123 :: r, p⟩ .tooDeep
      else (readMembers fuel (depth - 1) true ⟨r, p.advance 123⟩).map
        fun (v, c) => (.object v, c) := by
  rw [readValue]
  rfl

theorem readValue_string (fuel depth : Nat) (r : List UInt8) (p : Position) :
    readValue (fuel + 1) depth ⟨34 :: r, p⟩ =
      (Cursor.string ⟨34 :: r, p⟩).map fun (s, c) => (.string s, c) := by
  rw [readValue]
  rfl

theorem endsNumber_of_starts {b : UInt8} (h : isDigitByte b = false ∧ b ≠ 46 ∧ b ≠ 69 ∧ b ≠ 101)
    (r : List UInt8) : EndsNumber (b :: r) := by
  rintro c ⟨⟩
  exact h

theorem endsNumber_lineStart (level : Nat) (r : List UInt8) :
    EndsNumber (bytesOf (lineStart level) ++ r) := by
  rw [lineStart, bytesOf_append, List.append_assoc]
  exact endsNumber_of_starts (b := 10) (by decide) _

theorem endsNumber_moreItems (level : Nat) (rest : List Json) {r : List UInt8}
    (ends : EndsNumber r) : EndsNumber (moreItems level rest ++ r) := by
  cases rest with
  | nil => exact ends
  | cons v rest => exact endsNumber_of_starts (b := 44) (by decide) _

theorem endsNumber_moreMembers (level : Nat) (rest : List (String × Json)) {r : List UInt8}
    (ends : EndsNumber r) : EndsNumber (moreMembers level rest ++ r) := by
  cases rest with
  | nil => exact ends
  | cons m rest => exact endsNumber_of_starts (b := 44) (by decide) _

theorem startsValue_writeIndented {v : Json} (h : v.IsFinite) (level : Nat) :
    ∃ b r, bytesOf (writeIndented level v) = b :: r ∧ StartsValue b := by
  cases v with
  | null => exact ⟨110, _, rfl, by decide⟩
  | boolean value => cases value with
    | false => exact ⟨102, _, rfl, by decide⟩
    | true => exact ⟨116, _, rfl, by decide⟩
  | string text =>
    rw [show writeIndented level (.string text) = writeString text from rfl, bytesOf_writeString]
    exact ⟨34, _, rfl, by decide⟩
  | number n =>
    obtain ⟨b, r, first, lead⟩ := Number.IsFinite.lead h
    refine ⟨b, r, first, ?_⟩
    rcases lead with rfl | digit
    · decide
    · exact startsValue_of_isDigitByte digit
  | array items => cases items with
    | nil => exact ⟨91, _, rfl, by decide⟩
    | cons v rest =>
      rw [bytesOf_array]
      exact ⟨91, _, rfl, by decide⟩
  | object members => cases members with
    | nil => exact ⟨123, _, rfl, by decide⟩
    | cons m rest =>
      rw [bytesOf_object]
      exact ⟨123, _, rfl, by decide⟩

/-- A value is read from its text unless it nests too deep. -/
def ReadsBack (v : Json) : Prop :=
  ∀ {fuel depth level : Nat}, 2 * (bytesOf (writeIndented level v)).length ≤ fuel → 0 < depth →
    ∀ {tail : List UInt8}, EndsNumber tail → ∀ p,
      Delivers (readValue fuel depth ⟨bytesOf (writeIndented level v) ++ tail, p⟩)
        (v.depth < depth) v.reread tail

def ItemsReadBack (rest : List Json) : Prop :=
  ∀ {fuel depth level outer : Nat}, 2 * (moreItems level rest).length + 1 ≤ fuel → 0 < depth →
    ∀ (tail : List UInt8) (p : Position),
      Delivers (readItems fuel depth false
          ⟨moreItems level rest ++ (bytesOf (lineStart outer) ++ 93 :: tail), p⟩)
        (depthItems rest < depth) (rereadItems rest) tail

def MembersReadBack (rest : List (String × Json)) : Prop :=
  ∀ {fuel depth level outer : Nat}, 2 * (moreMembers level rest).length + 1 ≤ fuel → 0 < depth →
    ∀ (tail : List UInt8) (p : Position),
      Delivers (readMembers fuel depth false
          ⟨moreMembers level rest ++ (bytesOf (lineStart outer) ++ 125 :: tail), p⟩)
        (depthMembers rest < depth) (rereadMembers rest) tail

theorem succ_of_text {v : Json} (h : v.IsFinite) {fuel level : Nat}
    (enough : 2 * (bytesOf (writeIndented level v)).length ≤ fuel) : ∃ n, fuel = n + 1 := by
  obtain ⟨b, r, first, -⟩ := startsValue_writeIndented h level
  rw [first, List.length_cons] at enough
  exact ⟨fuel - 1, by omega⟩

theorem readsBack_of_flat {v : Json} (finite : v.IsFinite) (flat : v.depth = 0)
    (reads : ∀ (fuel depth level : Nat) (tail : List UInt8), EndsNumber tail → ∀ p, ∃ p',
      readValue (fuel + 1) depth ⟨bytesOf (writeIndented level v) ++ tail, p⟩ =
        .ok (v.reread, ⟨tail, p'⟩)) : ReadsBack v := by
  intro fuel depth level enough some tail ends p
  obtain ⟨fuel, rfl⟩ := succ_of_text finite enough
  rw [flat]
  exact .of_ok some (reads fuel depth level tail ends p)

theorem readsBack_null : ReadsBack .null := by
  refine readsBack_of_flat (v := .null) trivial rfl fun fuel depth level tail _ p => ?_
  exact ⟨_, by rw [readValue]; rfl⟩

theorem readsBack_boolean (value : Bool) : ReadsBack (.boolean value) := by
  refine readsBack_of_flat (v := .boolean value) trivial rfl fun fuel depth level tail _ p => ?_
  cases value with
  | false => exact ⟨_, by rw [readValue]; rfl⟩
  | true => exact ⟨_, by rw [readValue]; rfl⟩

theorem readsBack_number {n : Number} (h : n.IsFinite) : ReadsBack (.number n) :=
  readsBack_of_flat (v := .number n) h rfl fun fuel depth _ tail ends p =>
    h.readsNumber fuel depth tail ends p

theorem readsBack_string (text : String) : ReadsBack (.string text) := by
  refine readsBack_of_flat (v := .string text) trivial rfl fun fuel depth level tail _ p => ?_
  obtain ⟨p', read⟩ := string_writeString text tail p
  refine ⟨p', ?_⟩
  rw [show writeIndented level (.string text) = writeString text from rfl]
  rw [bytesOf_writeString, List.cons_append] at read ⊢
  rw [readValue_string, read]
  rfl

section Composites
variable {fuel depth : Nat} {tail : List UInt8} {c : Cursor}

/-- A list is read item by item: what is too deep in one of them is too deep in the list. -/
theorem readItems_text (level outer : Nat) {v : Json} {rest : List Json} {first : Bool}
    (hv : ReadsBack v) (hrest : ItemsReadBack rest)
    (enough : 2 * (bytesOf (writeIndented level v)).length +
      2 * (moreItems level rest).length + 1 ≤ fuel) (some : 0 < depth)
    (item : ∃ p, c.hasItem first = .ok (true, ⟨bytesOf (writeIndented level v) ++
      (moreItems level rest ++ (bytesOf (lineStart outer) ++ 93 :: tail)), p⟩)) :
    Delivers (readItems (fuel + 1) depth first c) (depthItems (v :: rest) < depth)
      (rereadItems (v :: rest)) tail := by
  obtain ⟨p, item⟩ := item
  have fits : (depthItems (v :: rest) < depth) = (v.depth < depth ∧ depthItems rest < depth) :=
    propext Nat.max_lt
  have ends := endsNumber_moreItems level rest (endsNumber_lineStart outer (93 :: tail))
  rw [readItems_more item, fits]
  exact (hv (by omega) some ends p).bind (hrest (by omega) some tail) List.cons

theorem readMembers_text (level outer : Nat) {key : String} {v : Json}
    {rest : List (String × Json)} {first : Bool} (hv : ReadsBack v) (hrest : MembersReadBack rest)
    (enough : 2 * (bytesOf (writeIndented level v)).length +
      2 * (moreMembers level rest).length ≤ fuel) (some : 0 < depth)
    (member : ∃ p, c.hasMember first = .ok (true, ⟨bytesOf (writeString key) ++
      58 :: 32 :: (bytesOf (writeIndented level v) ++
        (moreMembers level rest ++ (bytesOf (lineStart outer) ++ 125 :: tail))), p⟩)) :
    Delivers (readMembers (fuel + 2) depth first c) (depthMembers ((key, v) :: rest) < depth)
      (rereadMembers ((key, v) :: rest)) tail := by
  obtain ⟨p, member⟩ := member
  obtain ⟨p₁, hkey⟩ := string_writeString key (58 :: 32 :: (bytesOf (writeIndented level v) ++
    (moreMembers level rest ++ (bytesOf (lineStart outer) ++ 125 :: tail)))) p
  obtain ⟨p₂, more⟩ := readMembers_more fuel depth member hkey
  have fits : (depthMembers ((key, v) :: rest) < depth) =
      (v.depth < depth ∧ depthMembers rest < depth) := propext Nat.max_lt
  have ends := endsNumber_moreMembers level rest (endsNumber_lineStart outer (125 :: tail))
  rw [more, fits]
  exact (hv (by omega) some ends p₂).bind (hrest (by omega) some tail) fun w ws => (key, w) :: ws

theorem Delivers.nested {α : Type} {inner : Except SyntaxError (α × Cursor)} {n : Nat} {x : α}
    (h : 1 < depth → Delivers inner (n < depth - 1) x tail) (wrap : α → Json) :
    Delivers (if depth ≤ 1 then c.failAtNext .tooDeep else inner.map fun (v, c) => (wrap v, c))
      (n + 1 < depth) (wrap x) tail := by
  split
  · rename_i deep
    exact ⟨fun fits => by omega, fun _ => ⟨_, rfl⟩⟩
  · rename_i more
    have fits : (n + 1 < depth) = (n < depth - 1) := propext (by omega)
    rw [fits]
    exact (h (Nat.lt_of_not_le more)).map wrap

end Composites

theorem length_lineStart (level : Nat) : 0 < (bytesOf (lineStart level)).length := by
  rw [lineStart, bytesOf_append, List.length_append]
  exact Nat.add_pos_left (show 0 < [(10 : UInt8)].length by decide) _

theorem readsBack_nil : ReadsBack (.array []) := by
  intro fuel depth level enough some tail _ p
  change 2 * 2 ≤ fuel at enough
  obtain ⟨fuel, rfl⟩ : ∃ n, fuel = n + 2 := ⟨fuel - 2, by omega⟩
  change Delivers (readValue (fuel + 2) depth ⟨91 :: 93 :: tail, p⟩) _ _ _
  rw [readValue_array]
  refine Delivers.nested (fun deep => .of_ok (Nat.sub_pos_of_lt deep) ?_) Json.array
  obtain ⟨p', done⟩ := hasItem_end areSpaces_nil true tail (p.advance 91)
  exact ⟨_, readItems_end done⟩

theorem readsBack_array {v : Json} {rest : List Json} (finite : v.IsFinite) (hv : ReadsBack v)
    (hrest : ItemsReadBack rest) : ReadsBack (.array (v :: rest)) := by
  intro fuel depth level enough some tail _ p
  have line := length_lineStart (level + 1)
  rw [bytesOf_array, bytesOf_indentItems] at enough
  simp only [List.length_cons, List.length_append, List.length_nil] at enough
  obtain ⟨fuel, rfl⟩ : ∃ n, fuel = n + 2 := ⟨fuel - 2, by omega⟩
  obtain ⟨b, r, first, starts⟩ := startsValue_writeIndented finite (level + 1)
  let t := moreItems (level + 1) rest ++ (bytesOf (lineStart level) ++ 93 :: tail)
  have bytes : bytesOf (writeIndented level (.array (v :: rest))) ++ tail =
      91 :: (bytesOf (lineStart (level + 1)) ++ (bytesOf (writeIndented (level + 1) v) ++ t)) := by
    rw [bytesOf_array, bytesOf_indentItems]
    simp only [List.cons_append, List.append_assoc, List.nil_append, t]
  rw [bytes, readValue_array]
  refine Delivers.nested (fun deep => ?_) Json.array
  refine readItems_text (level + 1) level hv hrest (by omega) (Nat.sub_pos_of_lt deep) ?_
  rw [first]
  exact hasItem_first (areSpaces_lineStart (level + 1)) starts (r ++ t) (p.advance 91)

theorem itemsReadBack_nil : ItemsReadBack [] := by
  intro fuel depth level outer enough some tail p
  obtain ⟨fuel, rfl⟩ : ∃ n, fuel = n + 1 := ⟨fuel - 1, by omega⟩
  obtain ⟨p', done⟩ := hasItem_end (areSpaces_lineStart outer) false tail p
  exact .of_ok some ⟨_, readItems_end done⟩

theorem itemsReadBack_cons {v : Json} {rest : List Json} (finite : v.IsFinite) (hv : ReadsBack v)
    (hrest : ItemsReadBack rest) : ItemsReadBack (v :: rest) := by
  intro fuel depth level outer enough some tail p
  have line := length_lineStart level
  rw [moreItems, bytesOf_indentItems] at enough
  simp only [List.length_cons, List.length_append] at enough
  obtain ⟨fuel, rfl⟩ : ∃ n, fuel = n + 1 := ⟨fuel - 1, by omega⟩
  obtain ⟨b, r, first, starts⟩ := startsValue_writeIndented finite level
  let t := moreItems level rest ++ (bytesOf (lineStart outer) ++ 93 :: tail)
  have bytes : moreItems level (v :: rest) ++ (bytesOf (lineStart outer) ++ 93 :: tail) =
      44 :: (bytesOf (lineStart level) ++ (bytesOf (writeIndented level v) ++ t)) := by
    rw [moreItems, bytesOf_indentItems]
    simp only [List.cons_append, List.append_assoc, t]
  rw [bytes]
  refine readItems_text level outer hv hrest (by omega) some ?_
  rw [first]
  exact hasItem_comma (areSpaces_lineStart level) starts (r ++ t) p

theorem readsBack_empty : ReadsBack (.object []) := by
  intro fuel depth level enough some tail _ p
  change 2 * 2 ≤ fuel at enough
  obtain ⟨fuel, rfl⟩ : ∃ n, fuel = n + 2 := ⟨fuel - 2, by omega⟩
  change Delivers (readValue (fuel + 2) depth ⟨123 :: 125 :: tail, p⟩) _ _ _
  rw [readValue_object]
  refine Delivers.nested (fun deep => .of_ok (Nat.sub_pos_of_lt deep) ?_) Json.object
  obtain ⟨p', done⟩ := hasMember_end areSpaces_nil true tail (p.advance 123)
  exact ⟨_, readMembers_end done⟩

theorem readsBack_object {key : String} {v : Json} {rest : List (String × Json)}
    (hv : ReadsBack v) (hrest : MembersReadBack rest) :
    ReadsBack (.object ((key, v) :: rest)) := by
  intro fuel depth level enough some tail _ p
  have line := length_lineStart (level + 1)
  rw [bytesOf_object, bytesOf_indentMembers] at enough
  simp only [List.length_cons, List.length_append, List.length_nil] at enough
  obtain ⟨fuel, rfl⟩ : ∃ n, fuel = n + 3 := ⟨fuel - 3, by omega⟩
  let t := moreMembers (level + 1) rest ++ (bytesOf (lineStart level) ++ 125 :: tail)
  have bytes : bytesOf (writeIndented level (.object ((key, v) :: rest))) ++ tail =
      123 :: (bytesOf (lineStart (level + 1)) ++ (bytesOf (writeString key) ++
        58 :: 32 :: (bytesOf (writeIndented (level + 1) v) ++ t))) := by
    rw [bytesOf_object, bytesOf_indentMembers]
    simp only [List.cons_append, List.append_assoc, List.nil_append, t]
  rw [bytes, readValue_object]
  refine Delivers.nested (fun deep => ?_) Json.object
  refine readMembers_text (level + 1) level hv hrest (by omega) (Nat.sub_pos_of_lt deep) ?_
  rw [bytesOf_writeString]
  exact hasMember_first (areSpaces_lineStart (level + 1)) _ (p.advance 123)

theorem membersReadBack_nil : MembersReadBack [] := by
  intro fuel depth level outer enough some tail p
  obtain ⟨fuel, rfl⟩ : ∃ n, fuel = n + 1 := ⟨fuel - 1, by omega⟩
  obtain ⟨p', done⟩ := hasMember_end (areSpaces_lineStart outer) false tail p
  exact .of_ok some ⟨_, readMembers_end done⟩

theorem membersReadBack_cons {key : String} {v : Json} {rest : List (String × Json)}
    (hv : ReadsBack v) (hrest : MembersReadBack rest) : MembersReadBack ((key, v) :: rest) := by
  intro fuel depth level outer enough some tail p
  have line := length_lineStart level
  rw [moreMembers, bytesOf_indentMembers] at enough
  simp only [List.length_cons, List.length_append] at enough
  obtain ⟨fuel, rfl⟩ : ∃ n, fuel = n + 2 := ⟨fuel - 2, by omega⟩
  let t := moreMembers level rest ++ (bytesOf (lineStart outer) ++ 125 :: tail)
  have bytes : moreMembers level ((key, v) :: rest) ++ (bytesOf (lineStart outer) ++ 125 :: tail) =
      44 :: (bytesOf (lineStart level) ++ (bytesOf (writeString key) ++
        58 :: 32 :: (bytesOf (writeIndented level v) ++ t))) := by
    rw [moreMembers, bytesOf_indentMembers]
    simp only [List.cons_append, List.append_assoc, t]
  rw [bytes]
  refine readMembers_text level outer hv hrest (by omega) some ?_
  rw [bytesOf_writeString]
  exact hasMember_comma (areSpaces_lineStart level) _ p

-- By the constructors of the value: the text behind the first item or member begins with what tells
-- whether there are more of them.
mutual

theorem readsBack : ∀ v : Json, v.IsFinite → ReadsBack v
  | .null, _ => readsBack_null
  | .boolean value, _ => readsBack_boolean value
  | .number _, h => readsBack_number h
  | .string text, _ => readsBack_string text
  | .array [], _ => readsBack_nil
  | .array (v :: rest), h => readsBack_array h.1 (readsBack v h.1) (itemsReadBack rest h.2)
  | .object [], _ => readsBack_empty
  | .object ((_, v) :: rest), h => readsBack_object (readsBack v h.1) (membersReadBack rest h.2)

theorem itemsReadBack : ∀ items : List Json, ItemsFinite items → ItemsReadBack items
  | [], _ => itemsReadBack_nil
  | v :: rest, h => itemsReadBack_cons h.1 (readsBack v h.1) (itemsReadBack rest h.2)

theorem membersReadBack : ∀ members : List (String × Json), MembersFinite members →
    MembersReadBack members
  | [], _ => membersReadBack_nil
  | (_, v) :: rest, h => membersReadBack_cons (readsBack v h.1) (membersReadBack rest h.2)

end

/-- The indented text of a value is a document if the value nests no deeper than documents do, and
otherwise it is none. -/
theorem readRaw_writePretty {v : Json} (h : v.IsFinite) :
    (v.depth < maxDepth → readRaw (bytesOf v.writePretty) = .ok v.reread) ∧
      (¬ v.depth < maxDepth → ∃ e, readRaw (bytesOf v.writePretty) = .error e) := by
  have enough := Nat.le_add_right (2 * (bytesOf (writeIndented 0 v)).length) 2
  have ends : EndsNumber [] := fun _ h => nomatch h
  have delivers := readsBack v h enough (show 0 < maxDepth by decide) ends ⟨1, 0⟩
  rw [List.append_nil] at delivers
  constructor
  · intro fits
    obtain ⟨p, read⟩ := delivers.1 fits
    rw [readRaw, Cursor.value, Cursor.ofBytes, writePretty]
    dsimp only
    rw [read]
    rfl
  · intro deep
    obtain ⟨e, fault⟩ := delivers.2 deep
    refine ⟨e, ?_⟩
    rw [readRaw, Cursor.value, Cursor.ofBytes, writePretty]
    dsimp only
    rw [fault]
    rfl

theorem read_writePretty {v : Json} (h : v.IsFinite) (fits : v.depth < maxDepth) :
    read (bytesOf v.writePretty) = .ok v.reread.normalize := by
  rw [read, (readRaw_writePretty h).1 fits]
  rfl

theorem read_writePretty_iff {v : Json} (h : v.IsFinite) :
    (∃ w, read (bytesOf v.writePretty) = .ok w) ↔ v.depth < maxDepth := by
  constructor
  · rintro ⟨w, hw⟩
    by_contra deep
    obtain ⟨e, fault⟩ := (readRaw_writePretty h).2 deep
    rw [read, fault] at hw
    cases hw
  · intro fits
    exact ⟨_, read_writePretty h fits⟩

end SearchQuery.Json
