import SearchQuery.Proofs.Json.Readers

/-!
# How deep values nest

The depth of a value is that of its deepest part and one more.  A typed reader that keeps the form
of what it reads yields something that is written no deeper.
-/

set_option autoImplicit false
namespace SearchQuery.Json

variable {ε α : Type}

@[simp] theorem depth_string (text : String) : (Json.string text).depth = 0 := rfl

@[simp] theorem depth_boolean (value : Bool) : (Json.boolean value).depth = 0 := rfl

@[simp] theorem depth_ofFloat (x : Float) : (ofFloat x).depth = 0 := by
  rw [ofFloat]
  split <;> rfl

@[simp] theorem depth_ofUInt32 (n : UInt32) : (ofUInt32 n).depth = 0 := rfl

@[simp] theorem depthMembers_append (a b : List (String × Json)) :
    depthMembers (a ++ b) = max (depthMembers a) (depthMembers b) := by
  induction a with
  | nil => exact (Nat.zero_max _).symm
  | cons m rest ih =>
    obtain ⟨key, v⟩ := m
    rw [List.cons_append, depthMembers, depthMembers, ih, Nat.max_assoc]

theorem depthMembers_le_iff {members : List (String × Json)} {n : Nat} :
    depthMembers members ≤ n ↔ ∀ m ∈ members, m.2.depth ≤ n := by
  induction members with
  | nil => simp [depthMembers]
  | cons m rest ih =>
    obtain ⟨key, v⟩ := m
    rw [depthMembers, Nat.max_le, ih, List.forall_mem_cons]

theorem depthItems_le_iff {items : List Json} {n : Nat} :
    depthItems items ≤ n ↔ ∀ v ∈ items, v.depth ≤ n := by
  induction items with
  | nil => simp [depthItems]
  | cons v rest ih => rw [depthItems, Nat.max_le, ih, List.forall_mem_cons]

theorem depth_le_of_lookup {members : List (String × Json)} {key : String} {v : Json}
    (h : lookup key members = some v) : v.depth ≤ depthMembers members :=
  depthMembers_le_iff.1 (Nat.le_refl _) _ (lookup_mem h)

theorem depthMembers_zip_le (keys : List String) (items : List Json) :
    depthMembers (keys.zip items) ≤ depthItems items := by
  rw [depthMembers_le_iff]
  intro m hm
  exact depthItems_le_iff.1 (Nat.le_refl _) m.2 (List.of_mem_zip hm).2

@[simp] theorem string_isFinite (text : String) : (Json.string text).IsFinite := trivial

@[simp] theorem boolean_isFinite (value : Bool) : (Json.boolean value).IsFinite := trivial

@[simp] theorem ofUInt32_isFinite (n : UInt32) : (ofUInt32 n).IsFinite := trivial

@[simp] theorem ofFloat_isFinite (x : Float) : (ofFloat x).IsFinite := by
  rw [ofFloat]
  split
  · rename_i finite
    exact finite
  · trivial

theorem isFinite_array {write : α → Json} (h : ∀ x, (write x).IsFinite) (xs : List α) :
    (Json.array (xs.map write)).IsFinite := by
  refine itemsFinite_iff.2 fun v hv => ?_
  obtain ⟨x, -, rfl⟩ := List.mem_map.1 hv
  exact h x

@[simp] theorem membersFinite_append {a b : List (String × Json)} :
    MembersFinite (a ++ b) ↔ MembersFinite a ∧ MembersFinite b := by
  rw [membersFinite_iff, membersFinite_iff, membersFinite_iff]
  exact List.forall_mem_append

/-- What is read is written at most `k` levels deeper. -/
def Nests (read : Reader ε α) (write : α → Json) (k : Nat) : Prop :=
  ∀ v x, read v = .ok x → (write x).depth ≤ v.depth + k

theorem readEach_nests {read : Reader ε α} {write : α → Json} {k : Nat} (h : Nests read write k)
    {items : List Json} {xs : List α} (hread : readEach read items = .ok xs) :
    depthItems (xs.map write) ≤ depthItems items + k := by
  induction items generalizing xs with
  | nil =>
    cases hread
    exact Nat.zero_le _
  | cons v rest ih =>
    rw [readEach] at hread
    simp only [bind_eq_ok, pure_eq_ok] at hread
    obtain ⟨x, hx, ys, hys, rfl⟩ := hread
    have first := h v x hx
    have others := ih hys
    rw [List.map_cons, depthItems, depthItems]
    omega

theorem Nests.listOf {read : Reader ε α} {write : α → Json} {k : Nat} (h : Nests read write k) :
    Nests (listOf read) (fun xs => .array (xs.map write)) k := by
  intro v xs hread
  cases v with
  | array items =>
    have each := readEach_nests h hread
    rw [depth, depth]
    omega
  | _ => cases hread

theorem required_nests {read : Reader ε α} {write : α → Json} {k : Nat} (h : Nests read write k)
    {key : String} {members : List (String × Json)} {x : α}
    (built : (Record.required key read).build members = .ok x) :
    (write x).depth ≤ depthMembers members + k := by
  obtain ⟨v, hv, hx⟩ := Record.required_build.1 built
  exact Nat.le_trans (h v x hx) (Nat.add_le_add_right (depth_le_of_lookup hv) k)

theorem Record.members_of_read {r : Record ε α} {type surplus : String} {v : Json} {x : α}
    (h : r.read type surplus v = .ok x) :
    ∃ members, depthMembers members + 1 ≤ v.depth ∧ r.build members = .ok x := by
  cases v with
  | object members => exact ⟨members, Nat.le_refl _, build_of_readMembers h⟩
  | array items =>
    obtain ⟨y, hy, h⟩ := bind_eq_ok.1 h
    split at h
    · cases h
    · cases h
      exact ⟨_, Nat.succ_le_succ (depthMembers_zip_le _ items), build_of_readItems hy⟩
  | _ => cases h

end SearchQuery.Json
