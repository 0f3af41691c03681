import SearchQuery.Proofs.Json.Records
import SearchQuery.Proofs.Text.Bytes

/-!
# Members that a record does not name

A record is read from the members that it names: two objects that agree on these are read to the
same value or refused for the same reason, whatever else they hold
(`Json.Record.readMembers_congr`).
-/

set_option autoImplicit false
namespace SearchQuery.Json

def restrict (keys : List String) (members : List (String × Json)) : List (String × Json) :=
  members.filter fun m => decide (m.1 ∈ keys)

theorem lookup_restrict (keys : List String) (key : String) (members : List (String × Json)) :
    lookup key (restrict keys members) = if key ∈ keys then lookup key members else none := by
  induction members with
  | nil => simp [restrict, lookup]
  | cons m rest ih =>
    obtain ⟨k, v⟩ := m
    unfold restrict at ih ⊢
    by_cases same : k = key
    · subst same
      by_cases named : k ∈ keys
      · simp [named, lookup]
      · simp [named, ih]
    · by_cases named : k ∈ keys
      · simp [named, lookup, same, ih]
      · simp [named, lookup, same, ih]

theorem Sorted.restrict {members : List (String × Json)} (h : Sorted members)
    (keys : List String) : Sorted (restrict keys members) :=
  h.sublist List.filter_sublist

theorem Sorted.ext {a b : List (String × Json)} (ha : Sorted a) (hb : Sorted b)
    (same : ∀ key, lookup key a = lookup key b) : a = b := by
  have mem {members : List (String × Json)} (h : Sorted members) (m : String × Json) :
      m ∈ members ↔ lookup m.1 members = some m.2 :=
    ⟨Record.lookup_of_sorted h, lookup_mem⟩
  exact eq_of_mem_iff_ascending ha hb fun m => by rw [mem ha, mem hb, same]

namespace Record
variable {ε α β : Type}

/-- The record is built from the members that it names. -/
def IsLocal (r : Record ε α) : Prop :=
  ∀ a b, (∀ key ∈ r.checks.map (·.1), lookup key a = lookup key b) → r.build a = r.build b

theorem isLocal_required (key : String) (read : Reader ε α) : (required key read).IsLocal := by
  intro a b same
  have under : lookup key a = lookup key b := same key List.mem_cons_self
  simp only [required, under]

theorem isLocal_defaulted (key : String) (read : Reader ε α) (default : α) :
    (defaulted key read default).IsLocal := by
  intro a b same
  have under : lookup key a = lookup key b := same key List.mem_cons_self
  simp only [defaulted, under]

theorem isLocal_seq {f : Record ε (α → β)} {r : Record ε α} (hf : f.IsLocal) (hr : r.IsLocal) :
    (f <*> r).IsLocal := by
  intro a b same
  have keys : (f <*> r).checks.map (·.1) = f.checks.map (·.1) ++ r.checks.map (·.1) :=
    List.map_append
  rw [keys] at same
  change (f.build a >>= fun g => r.build a >>= fun x => .ok (g x)) =
    (f.build b >>= fun g => r.build b >>= fun x => .ok (g x))
  rw [hf a b fun key named => same key (List.mem_append_left _ named),
    hr a b fun key named => same key (List.mem_append_right _ named)]

theorem isLocal_map (f : α → β) {r : Record ε α} (hr : r.IsLocal) : (f <$> r).IsLocal :=
  isLocal_seq (fun _ _ _ => rfl) hr

theorem check_restrict (checks : List (String × (Json → Except (Mismatch ε) Unit)))
    (seen : List String) (members : List (String × Json)) :
    check checks seen (restrict (checks.map (·.1)) members) = check checks seen members := by
  induction members generalizing seen with
  | nil => rfl
  | cons m rest ih =>
    obtain ⟨key, v⟩ := m
    unfold restrict at ih ⊢
    cases test : checks.lookup key with
    | none =>
      have unnamed : key ∉ checks.map (·.1) := lookup_eq_none_iff.1 test
      rw [List.filter_cons_of_neg (by simpa using unnamed), ih, check, test]
    | some test' =>
      have named : key ∈ checks.map (·.1) := by
        refine Classical.byContradiction fun unnamed => ?_
        rw [lookup_eq_none_iff.2 unnamed] at test
        cases test
      rw [List.filter_cons_of_pos (by simpa using named), check, check, test]
      simp only [ih]

/-- Sorted objects that agree on the members that the record names are read alike. -/
theorem readMembers_congr {r : Record ε α} (isLocal : r.IsLocal) {a b : List (String × Json)}
    (ha : Sorted a) (hb : Sorted b)
    (same : ∀ key ∈ r.checks.map (·.1), lookup key a = lookup key b) :
    r.readMembers a = r.readMembers b := by
  have restricted : restrict (r.checks.map (·.1)) a = restrict (r.checks.map (·.1)) b := by
    refine (ha.restrict _).ext (hb.restrict _) fun key => ?_
    rw [lookup_restrict, lookup_restrict]
    split
    · exact same key ‹_›
    · rfl
  rw [readMembers, readMembers, ← check_restrict r.checks [] a, restricted, check_restrict,
    isLocal a b same]

end Record

end SearchQuery.Json
