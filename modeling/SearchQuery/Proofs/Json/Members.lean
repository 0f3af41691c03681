import SearchQuery.Json.Basic

/-!
# Members of sorted objects

A sorted object has every key once, and under it the value that came last in the members that were
sorted (`Json.latest`).
-/

set_option autoImplicit false
namespace SearchQuery.Json

theorem lookup_append (key : String) (a b : List (String × Json)) :
    lookup key (a ++ b) = (lookup key a).or (lookup key b) := by
  induction a with
  | nil => rfl
  | cons m rest ih =>
    obtain ⟨k, v⟩ := m
    rw [List.cons_append, lookup, lookup]
    split
    · rfl
    · exact ih

theorem lookup_mem {key : String} {v : Json} {members : List (String × Json)}
    (h : lookup key members = some v) : (key, v) ∈ members := by
  induction members with
  | nil => cases h
  | cons m rest ih =>
    obtain ⟨k, w⟩ := m
    rw [lookup] at h
    split at h
    · rename_i hk
      cases h
      rw [hk]
      exact List.mem_cons_self
    · exact List.mem_cons_of_mem _ (ih h)

def latest (key : String) (members : List (String × Json)) : Option Json :=
  lookup key members.reverse

@[simp] theorem latest_nil (key : String) : latest key [] = none := rfl

@[simp] theorem latest_append (key : String) (a b : List (String × Json)) :
    latest key (a ++ b) = (latest key b).or (latest key a) := by
  rw [latest, List.reverse_append, lookup_append]
  rfl

@[simp] theorem latest_cons (key k : String) (v : Json) (rest : List (String × Json)) :
    latest key ((k, v) :: rest) = (latest key rest).or (if k = key then some v else none) := by
  rw [latest, List.reverse_cons, lookup_append]
  rfl

theorem latest_normalizeMembers (key : String) (members : List (String × Json)) :
    latest key (normalizeMembers members) = (latest key members).map normalize := by
  induction members with
  | nil => rfl
  | cons m rest ih =>
    obtain ⟨k, v⟩ := m
    rw [normalizeMembers, latest_cons, latest_cons, ih]
    cases latest key rest with
    | some w => rfl
    | none =>
      by_cases h : k = key
      · simp [h]
      · simp [h]

theorem lookup_putMember (key k : String) (v : Json) (members : List (String × Json)) :
    lookup key (putMember k v members) = if k = key then some v else lookup key members := by
  induction members with
  | nil => rfl
  | cons m rest ih =>
    obtain ⟨l, w⟩ := m
    rw [putMember]
    split
    · rw [lookup]
    · split
      · rename_i h
        rw [lookup, lookup, ← h]
        split <;> rfl
      · rename_i h
        rw [lookup, lookup, ih]
        by_cases hl : l = key
        · rw [if_pos hl, if_pos hl, if_neg]
          intro hk
          exact h (hk.trans hl.symm)
        · rw [if_neg hl, if_neg hl]

theorem lookup_foldl_putMember (key : String) (members sorted : List (String × Json)) :
    lookup key (members.foldl (fun sorted m => putMember m.1 m.2 sorted) sorted) =
      (latest key members).or (lookup key sorted) := by
  induction members generalizing sorted with
  | nil => rfl
  | cons m rest ih =>
    obtain ⟨k, v⟩ := m
    rw [List.foldl_cons, ih, lookup_putMember, latest_cons, Option.or_assoc]
    by_cases h : k = key
    · rw [if_pos h, if_pos h, Option.some_or]
    · rw [if_neg h, if_neg h, Option.none_or]

theorem lookup_sortMembers (key : String) (members : List (String × Json)) :
    lookup key (sortMembers members) = latest key members := by
  rw [sortMembers, lookup_foldl_putMember]
  exact Option.or_none

/-- The keys ascend strictly. -/
def Sorted (members : List (String × Json)) : Prop := members.Pairwise fun m n => m.1 < n.1

theorem fst_mem_putMember {k : String} {v : Json} {members : List (String × Json)}
    {m : String × Json} (h : m ∈ putMember k v members) : m.1 = k ∨ m ∈ members := by
  induction members with
  | nil =>
    cases h with
    | head => exact .inl rfl
    | tail _ h => cases h
  | cons n rest ih =>
    obtain ⟨l, w⟩ := n
    rw [putMember] at h
    split at h
    · cases h with
      | head => exact .inl rfl
      | tail _ h => exact .inr h
    · split at h
      · cases h with
        | head => exact .inl rfl
        | tail _ h => exact .inr (List.mem_cons_of_mem _ h)
      · cases h with
        | head => exact .inr List.mem_cons_self
        | tail _ h =>
          rcases ih h with h | h
          · exact .inl h
          · exact .inr (List.mem_cons_of_mem _ h)

theorem putMember_sorted {k : String} {v : Json} {members : List (String × Json)}
    (h : Sorted members) : Sorted (putMember k v members) := by
  induction members with
  | nil => exact List.pairwise_singleton _ _
  | cons n rest ih =>
    obtain ⟨l, w⟩ := n
    obtain ⟨above, hrest⟩ := List.pairwise_cons.1 h
    rw [putMember]
    split
    · rename_i hkl
      refine List.pairwise_cons.2 ⟨?_, h⟩
      intro m hm
      cases hm with
      | head => exact hkl
      | tail _ hm => exact String.lt_trans hkl (above m hm)
    · split
      · rename_i hkl
        rw [hkl]
        exact List.pairwise_cons.2 ⟨above, hrest⟩
      · rename_i hlt hne
        refine List.pairwise_cons.2 ⟨?_, ih hrest⟩
        intro m hm
        rcases fst_mem_putMember hm with hm | hm
        · rw [hm]
          rcases String.le_total k l with hle | hle
          · exact absurd (String.le_antisymm hle (String.not_lt.1 hlt)) hne
          · exact Decidable.byContradiction fun hn =>
              hne (String.le_antisymm (String.not_lt.1 hn) hle)
        · exact above m hm

theorem sortMembers_sorted (members : List (String × Json)) : Sorted (sortMembers members) := by
  have fold : ∀ sorted, Sorted sorted →
      Sorted (members.foldl (fun sorted m => putMember m.1 m.2 sorted) sorted) := by
    induction members with
    | nil =>
      intro sorted h
      exact h
    | cons m rest ih =>
      intro sorted h
      exact ih _ (putMember_sorted h)
  exact fold [] .nil

end SearchQuery.Json
