import SearchQuery.Proofs.Json.Rereading

/-!
# The bytes that reading takes

Every value, member and end of a list takes at least a byte (`Json.Takes`).  So what is read with
fuel for the bytes that are left is what is read with any more of it (`Json.readValue_settles`).
-/

set_option autoImplicit false
namespace SearchQuery.Json

def Takes {α : Type} (step : Step α) (n : Nat) : Prop :=
  ∀ x k, step = .ok (x, k) → k.rest.length < n

namespace Takes
variable {α β : Type} {m n : Nat} {c k : Cursor}

theorem ok {x : α} (h : k.rest.length < n) : Takes (.ok (x, k)) n := by
  intro y j same
  cases same
  exact h

theorem error (e : SyntaxError) (n : Nat) : Takes (.error e : Step α) n := by
  intro x k h
  cases h

theorem mono {step : Step α} (h : Takes step m) (le : m ≤ n) : Takes step n :=
  fun x k read => Nat.lt_of_lt_of_le (h x k read) le

theorem yield {step : Except SyntaxError (α × Cursor)}
    {f : α × Cursor → Except SyntaxError (β × Cursor)} (h : Takes step m) (le : m ≤ n)
    (same : ∀ x k, ∃ y, f (x, k) = .ok (y, k)) :
    Takes (step >>= f : Except SyntaxError (β × Cursor)) n := by
  intro y j both
  obtain ⟨⟨x, k⟩, read, rest⟩ := bind_eq_ok.1 both
  obtain ⟨z, yields⟩ := same x k
  cases yields.symm.trans rest
  exact Nat.lt_of_lt_of_le (h x j read) le

theorem ite {p : Prop} [Decidable p] {s t : Step α} (yes : p → Takes s n)
    (no : ¬p → Takes t n) : Takes (if p then s else t) n := by
  split
  · exact yes ‹_›
  · exact no ‹_›

end Takes

section Cursors
variable (c : Cursor)

theorem next_length : c.next.rest.length = c.rest.length - 1 := by
  obtain ⟨rest, p⟩ := c
  cases rest with
  | nil => rfl
  | cons b rest => rfl

theorem drop_length (n : Nat) : (c.drop n).rest.length = c.rest.length - n := by
  obtain ⟨p, h⟩ := drop_rest n c
  rw [h, List.length_drop]

theorem skipFrom_length (p : Position) (cs : List UInt8) :
    (Cursor.skipFrom p cs).rest.length ≤ cs.length := by
  induction cs generalizing p with
  | nil => exact Nat.le_refl _
  | cons b rest ih =>
    rw [Cursor.skipFrom]
    split
    · exact Nat.le_succ_of_le (ih _)
    · exact Nat.le_refl _

theorem skipSpace_length : c.skipSpace.rest.length ≤ c.rest.length := skipFrom_length _ _

theorem skipDigits_length : c.skipDigits.rest.length ≤ c.rest.length := by
  rw [Cursor.skipDigits, drop_length]
  exact Nat.sub_le ..

end Cursors

section Numbers
variable (c : Cursor)

theorem word_takes (bytes : List UInt8) : Takes (c.word bytes) (c.rest.length + 1) := by
  induction bytes generalizing c with
  | nil => exact .ok (Nat.lt_succ_self _)
  | cons b more ih =>
    rw [Cursor.word]
    split
    · exact .error _ _
    · refine .ite (fun _ => (ih c.next).mono ?_) fun _ => .error _ _
      rw [next_length]
      omega

theorem finishReal_takes (negative : Bool) (n : Nat) (e : Int) :
    Takes (finishReal negative n e c) (c.rest.length + 1) := by
  unfold finishReal
  split
  · exact .error _ _
  · exact .ok (Nat.lt_succ_self _)

theorem exponentAt_takes (negative : Bool) (n : Nat) (shift : Int) (down : Bool) :
    Takes (exponentAt negative n shift down c) (c.rest.length + 1) := by
  have skipped := skipDigits_length c
  unfold exponentAt
  split
  · exact .error _ _
  · refine .ite (fun _ => ?_) fun _ => .error _ _
    split
    · exact .ite (fun _ => .error _ _) fun _ => .ok (Nat.lt_succ_of_le skipped)
    · exact (finishReal_takes _ _ _ _).mono (Nat.succ_le_succ skipped)

theorem readExponent_takes (negative : Bool) (n : Nat) (shift : Int) :
    Takes (readExponent negative n shift c) (c.rest.length + 1) := by
  have letter := next_length c
  have behind := next_length c.next
  have sign : ∃ pair : Bool × Cursor, readExponent negative n shift c =
      exponentAt negative n shift pair.1 pair.2 ∧ pair.2.rest.length ≤ c.rest.length := by
    refine ⟨_, rfl, ?_⟩
    split <;> dsimp only <;> omega
  obtain ⟨⟨down, k⟩, same, shorter⟩ := sign
  rw [same]
  exact (exponentAt_takes k negative n shift down).mono (Nat.succ_le_succ shorter)

theorem readRealEnd_takes (negative : Bool) (n : Nat) (shift : Int) :
    Takes (readRealEnd negative n shift c) (c.rest.length + 1) := by
  unfold readRealEnd
  split
  · exact readExponent_takes c negative n shift
  · exact readExponent_takes c negative n shift
  · exact finishReal_takes c negative n shift

theorem readPlaces_takes (negative : Bool) (n : Nat) (shift : Int) :
    Takes (readPlaces negative n shift c) (c.rest.length + 1) := by
  have point := next_length c
  have skipped := skipDigits_length c.next
  unfold readPlaces
  dsimp only
  refine .ite (fun _ => ?_) fun _ => (readRealEnd_takes _ _ _ _).mono (by omega)
  split
  · exact .error _ _
  · exact .error _ _

theorem readNumber_takes (negative : Bool) : Takes (readNumber negative c) c.rest.length := by
  unfold readNumber
  split
  · exact .error _ _
  · rename_i b more first
    refine .ite (fun _ => .error _ _) fun _ => .ite (fun digit => ?_) fun _ => .error _ _
    have skipped : c.skipDigits.rest.length < c.rest.length := by
      rw [Cursor.skipDigits, drop_length, first, List.takeWhile_cons_of_pos digit, List.length_cons,
        List.length_cons]
      omega
    dsimp only
    split
    · exact (readPlaces_takes _ _ _ _).mono skipped
    · exact (readExponent_takes _ _ _ _).mono skipped
    · exact (readExponent_takes _ _ _ _).mono skipped
    · exact .ite (fun _ => .ok skipped) fun _ => (finishReal_takes _ _ _ _).mono skipped

end Numbers

theorem finishString_takes (done : List UInt8) (b : UInt8) (r : List UInt8) (p : Position) :
    Takes (finishString done ⟨b :: r, p⟩) (r.length + 1) := by
  unfold finishString
  split
  · exact .ok (Nat.lt_succ_self _)
  · exact .error _ _

theorem readString_takes (done : List UInt8) (p : Position) (cs : List UInt8) :
    Takes (readString done p cs) cs.length := by
  fun_induction readString done p cs with
  | case17 done p r => exact finishString_takes done 34 r p
  | _ =>
    first
    | exact .error _ _
    | exact Takes.mono ‹_› (by simp only [List.length_cons]; omega)

theorem string_takes (c : Cursor) : Takes c.string c.rest.length := by
  intro x k h
  have shorter := readString_takes [] c.next.position c.next.rest x k h
  rw [next_length] at shorter
  omega

section Lists
variable (c : Cursor)

theorem colon_takes : Takes c.colon c.rest.length := by
  have space := skipSpace_length c
  unfold Cursor.colon
  dsimp only
  split
  · exact .error _ _
  · rename_i b r first
    refine .ite (fun _ => .ok ?_) fun _ => .error _ _
    rw [next_length]
    rw [first, List.length_cons] at space ⊢
    omega

theorem skipSpace_first {c : Cursor} {b : UInt8} {r : List UInt8}
    (start : c.skipSpace.rest = b :: r) :
    0 < c.skipSpace.rest.length ∧ c.skipSpace.rest.length ≤ c.rest.length := by
  refine ⟨?_, skipSpace_length c⟩
  rw [start]
  exact Nat.succ_pos _

theorem skipSpace_second {c : Cursor} {b : UInt8} {r : List UInt8}
    (start : c.skipSpace.next.skipSpace.rest = b :: r) :
    0 < c.skipSpace.next.skipSpace.rest.length ∧
      c.skipSpace.next.skipSpace.rest.length ≤ c.rest.length := by
  have space := skipSpace_length c
  have comma := next_length c.skipSpace
  obtain ⟨some, behind⟩ := skipSpace_first start
  exact ⟨some, by omega⟩

theorem hasItem_takes (first more : Bool) (k : Cursor) (h : c.hasItem first = .ok (more, k)) :
    0 < k.rest.length ∧ k.rest.length ≤ c.rest.length := by
  unfold Cursor.hasItem at h
  dsimp only at h
  split at h
  · cases h
  · rename_i start
    split at h
    · cases h
      exact skipSpace_first start
    · split at h
      · cases h
        exact skipSpace_first start
      · split at h
        · split at h
          · cases h
          · rename_i behind
            split at h
            · cases h
            · cases h
              exact skipSpace_second behind
        · cases h

theorem hasMember_takes (first more : Bool) (k : Cursor) (h : c.hasMember first = .ok (more, k)) :
    0 < k.rest.length ∧ k.rest.length ≤ c.rest.length := by
  unfold Cursor.hasMember at h
  dsimp only at h
  split at h
  · cases h
  · rename_i start
    split at h
    · cases h
      exact skipSpace_first start
    · split at h
      · split at h
        · cases h
          exact skipSpace_first start
        · cases h
      · split at h
        · split at h
          · cases h
          · rename_i behind
            split at h
            · cases h
              exact skipSpace_second behind
            · split at h
              · cases h
              · cases h
        · cases h

end Lists

section Values
variable {depth : Nat} {c k : Cursor}

theorem readValue_flat (depth : Nat) {b : UInt8} {r : List UInt8}
    (start : c.skipSpace.rest = b :: r) (array : b ≠ 91) (object : b ≠ 123) :
    ∃ step : Step Json, Takes step c.rest.length ∧
      ∀ fuel, readValue (fuel + 1) depth c = step := by
  refine ⟨readValue 1 depth c, ?_, fun fuel => ?_⟩
  · have space := skipSpace_length c
    have first : c.skipSpace.next.rest.length + 1 = c.skipSpace.rest.length := by
      rw [next_length, start, List.length_cons, Nat.add_sub_cancel]
    rw [readValue]
    simp only [start, if_neg array, if_neg object]
    refine .ite (fun _ => (word_takes _ _).yield (by omega) fun _ _ => ⟨_, rfl⟩) fun _ => ?_
    refine .ite (fun _ => (word_takes _ _).yield (by omega) fun _ _ => ⟨_, rfl⟩) fun _ => ?_
    refine .ite (fun _ => (word_takes _ _).yield (by omega) fun _ _ => ⟨_, rfl⟩) fun _ => ?_
    refine .ite (fun _ => (readNumber_takes _ true).yield (by omega) fun _ _ => ⟨_, rfl⟩)
      fun _ => ?_
    refine .ite (fun _ => (readNumber_takes _ false).yield (by omega) fun _ _ => ⟨_, rfl⟩)
      fun _ => ?_
    exact .ite (fun _ => (string_takes _).yield space fun _ _ => ⟨_, rfl⟩) fun _ => .error _ _
  · rw [readValue, readValue]
    simp only [start, if_neg array, if_neg object]

theorem readValue_array_at {r : List UInt8} (start : c.skipSpace.rest = 91 :: r) (fuel : Nat) :
    readValue (fuel + 1) depth c =
      if depth ≤ 1 then c.skipSpace.failAtNext .tooDeep
      else (readItems fuel (depth - 1) true c.skipSpace.next).map fun (v, c) => (.array v, c) := by
  rw [readValue]
  simp only [start]
  rfl

theorem readValue_object_at {r : List UInt8} (start : c.skipSpace.rest = 123 :: r) (fuel : Nat) :
    readValue (fuel + 1) depth c =
      if depth ≤ 1 then c.skipSpace.failAtNext .tooDeep
      else (readMembers fuel (depth - 1) true c.skipSpace.next).map
        fun (v, c) => (.object v, c) := by
  rw [readValue]
  simp only [start]
  rfl

/-- Reading settles with so much fuel: more of it does not change what is read, which takes a
byte. -/
def Settles {α : Type} (read : Nat → Step α) (c : Cursor) (enough : Nat) (x : α) (k : Cursor) :
    Prop :=
  k.rest.length < c.rest.length ∧ ∀ fuel, enough ≤ fuel → read fuel = .ok (x, k)

def ValuesSettle (fuel : Nat) : Prop := ∀ depth c v k, readValue fuel depth c = .ok (v, k) →
  Settles (readValue · depth c) c (2 * c.rest.length + 2) v k

def ItemsSettle (fuel : Nat) : Prop :=
  ∀ depth first c items k, readItems fuel depth first c = .ok (items, k) →
    Settles (readItems · depth first c) c (2 * c.rest.length + 3) items k

def MembersSettle (fuel : Nat) : Prop :=
  ∀ depth first c members k, readMembers fuel depth first c = .ok (members, k) →
    Settles (readMembers · depth first c) c (2 * c.rest.length + 3) members k

theorem itemsSettle_succ {fuel : Nat} (value : ValuesSettle fuel) (others : ItemsSettle fuel) :
    ItemsSettle (fuel + 1) := by
  intro depth first c items k h
  rw [readItems] at h
  obtain ⟨⟨more, c₁⟩, has, h⟩ := bind_eq_ok.1 h
  obtain ⟨some, shorter⟩ := hasItem_takes c first more c₁ has
  cases more with
  | false =>
    cases h
    have behind := next_length c₁
    refine ⟨by omega, fun fuel enough => ?_⟩
    obtain ⟨n, rfl⟩ : ∃ n, fuel = n + 1 := ⟨fuel - 1, by omega⟩
    exact readItems_end has
  | true =>
    obtain ⟨⟨v, c₂⟩, read, h⟩ := bind_eq_ok.1 h
    obtain ⟨⟨rest, c₃⟩, read', h⟩ := bind_eq_ok.1 h
    cases h
    obtain ⟨less, same⟩ := value _ _ _ _ read
    obtain ⟨less', same'⟩ := others _ _ _ _ _ read'
    refine ⟨by omega, fun fuel enough => ?_⟩
    obtain ⟨n, rfl⟩ : ∃ n, fuel = n + 1 := ⟨fuel - 1, by omega⟩
    have again : readValue n depth c₁ = .ok (v, c₂) := same n (by omega)
    have again' : readItems n depth false c₂ = .ok (rest, k) := same' n (by omega)
    dsimp only
    rw [readItems_more has, again, ok_bind]
    dsimp only
    rw [again']
    rfl

theorem membersSettle_succ {fuel : Nat} (value : ValuesSettle fuel) (others : MembersSettle fuel) :
    MembersSettle (fuel + 1) := by
  intro depth first c members k h
  rw [readMembers] at h
  obtain ⟨⟨more, c₁⟩, has, h⟩ := bind_eq_ok.1 h
  obtain ⟨some, shorter⟩ := hasMember_takes c first more c₁ has
  cases more with
  | false =>
    cases h
    have behind := next_length c₁
    refine ⟨by omega, fun fuel enough => ?_⟩
    obtain ⟨n, rfl⟩ : ∃ n, fuel = n + 1 := ⟨fuel - 1, by omega⟩
    exact readMembers_end has
  | true =>
    obtain ⟨⟨key, c₂⟩, named, h⟩ := bind_eq_ok.1 h
    obtain ⟨⟨⟨⟩, c₃⟩, colon, h⟩ := bind_eq_ok.1 h
    obtain ⟨⟨v, c₄⟩, read, h⟩ := bind_eq_ok.1 h
    obtain ⟨⟨rest, c₅⟩, read', h⟩ := bind_eq_ok.1 h
    cases h
    have lessKey := string_takes c₁ key c₂ named
    have lessColon := colon_takes c₂ () c₃ colon
    obtain ⟨less, same⟩ := value _ _ _ _ read
    obtain ⟨less', same'⟩ := others _ _ _ _ _ read'
    refine ⟨by omega, fun fuel enough => ?_⟩
    obtain ⟨n, rfl⟩ : ∃ n, fuel = n + 1 := ⟨fuel - 1, by omega⟩
    have again : readValue n depth c₃ = .ok (v, c₄) := same n (by omega)
    have again' : readMembers n depth false c₄ = .ok (rest, k) := same' n (by omega)
    dsimp only
    rw [readMembers, has, ok_bind]
    dsimp only
    rw [if_pos rfl, named, ok_bind]
    dsimp only
    rw [colon, ok_bind]
    dsimp only
    rw [again, ok_bind]
    dsimp only
    rw [again']
    rfl

theorem valuesSettle_succ {fuel : Nat} (items : ItemsSettle fuel) (members : MembersSettle fuel) :
    ValuesSettle (fuel + 1) := by
  intro depth c v k h
  have space := skipSpace_length c
  cases start : c.skipSpace.rest with
  | nil =>
    -- At the end of the text there is no value.
    rw [readValue] at h
    simp only [start] at h
    cases h
  | cons b r =>
    have behind := next_length c.skipSpace
    rw [start, List.length_cons] at space behind
    by_cases array : b = 91
    · subst array
      rw [readValue_array_at start] at h
      split at h
      · cases h
      · rename_i deep
        obtain ⟨⟨vs, j⟩, read, same⟩ := map_eq_ok.1 h
        cases same
        obtain ⟨less, same⟩ := items _ _ _ _ _ read
        refine ⟨by omega, fun fuel enough => ?_⟩
        obtain ⟨n, rfl⟩ : ∃ n, fuel = n + 1 := ⟨fuel - 1, by omega⟩
        have again : readItems n (depth - 1) true c.skipSpace.next = .ok (vs, k) :=
          same n (by omega)
        dsimp only
        rw [readValue_array_at start, if_neg deep, again]
        rfl
    · by_cases object : b = 123
      · subst object
        rw [readValue_object_at start] at h
        split at h
        · cases h
        · rename_i deep
          obtain ⟨⟨ms, j⟩, read, same⟩ := map_eq_ok.1 h
          cases same
          obtain ⟨less, same⟩ := members _ _ _ _ _ read
          refine ⟨by omega, fun fuel enough => ?_⟩
          obtain ⟨n, rfl⟩ : ∃ n, fuel = n + 1 := ⟨fuel - 1, by omega⟩
          have again : readMembers n (depth - 1) true c.skipSpace.next = .ok (ms, k) :=
            same n (by omega)
          dsimp only
          rw [readValue_object_at start, if_neg deep, again]
          rfl
      · obtain ⟨step, takes, same⟩ := readValue_flat depth start array object
        rw [same] at h
        refine ⟨takes v k h, fun fuel enough => ?_⟩
        obtain ⟨n, rfl⟩ : ∃ n, fuel = n + 1 := ⟨fuel - 1, by omega⟩
        exact (same n).trans h

theorem settles (fuel : Nat) : ValuesSettle fuel ∧ ItemsSettle fuel ∧ MembersSettle fuel := by
  -- The three readers call each other with less fuel, so they settle together.
  induction fuel with
  | zero =>
    refine ⟨fun _ _ _ _ h => ?_, fun _ _ _ _ _ h => ?_, fun _ _ _ _ _ h => ?_⟩ <;> cases h
  | succ fuel ih =>
    obtain ⟨values, items, members⟩ := ih
    exact ⟨valuesSettle_succ items members, itemsSettle_succ values items,
      membersSettle_succ values members⟩

/-- What is read with any fuel is read with fuel for the bytes that are left. -/
theorem value_of_readValue {fuel : Nat} {v : Json} (h : readValue fuel depth c = .ok (v, k)) :
    c.value depth = .ok (v, k) ∧ k.rest.length < c.rest.length := by
  obtain ⟨less, same⟩ := (settles fuel).1 _ _ _ _ h
  exact ⟨same _ (Nat.le_refl _), less⟩

end Values

end SearchQuery.Json
