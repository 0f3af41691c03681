import SearchQuery.Json.Record
import SearchQuery.Proofs.Json.Members
import SearchQuery.Proofs.Outcome

/-!
# Records of sorted objects

The record of an object is built from the values under its keys alone.  A value that is read also
passes its check, so a sorted object is read exactly when the record can be built from it
(`Json.Record.readMembers_eq_ok`).
-/

set_option autoImplicit false
namespace SearchQuery.Json.Record
variable {ε α β : Type}

theorem required_build {key : String} {read : Reader ε α} {members : List (String × Json)} {x : α} :
    (required key read).build members = .ok x ↔
      ∃ v, lookup key members = some v ∧ read v = .ok x := by
  unfold required
  cases h : lookup key members with
  | none => simp [h]
  | some v => simp [h]

theorem defaulted_build {key : String} {read : Reader ε α} {default : α}
    {members : List (String × Json)} {x : α} :
    (defaulted key read default).build members = .ok x ↔
      (lookup key members = none ∧ x = default) ∨
        ∃ v, lookup key members = some v ∧ read v = .ok x := by
  unfold defaulted
  cases h : lookup key members with
  | none => simp [h, eq_comm]
  | some v => simp [h]

theorem seq_build {f : Record ε (α → β)} {r : Record ε α} {members : List (String × Json)} {y : β} :
    (f <*> r).build members = .ok y ↔
      ∃ g x, f.build members = .ok g ∧ r.build members = .ok x ∧ g x = y := by
  change (f.build members >>= fun g => r.build members >>= fun x => .ok (g x)) = .ok y ↔ _
  simp only [bind_eq_ok, Except.ok.injEq]
  constructor
  · rintro ⟨g, hg, x, hx, h⟩
    exact ⟨g, x, hg, hx, h⟩
  · rintro ⟨g, x, hg, hx, h⟩
    exact ⟨g, hg, x, hx, h⟩

theorem map_build {f : α → β} {r : Record ε α} {members : List (String × Json)} {y : β} :
    (f <$> r).build members = .ok y ↔ ∃ x, r.build members = .ok x ∧ f x = y := by
  change (Record.seq (Record.pure f) r).build members = .ok y ↔ _
  refine seq_build.trans ?_
  constructor
  · rintro ⟨g, x, hg, hx, h⟩
    cases hg
    exact ⟨x, hx, h⟩
  · rintro ⟨x, hx, h⟩
    exact ⟨f, x, rfl, hx, h⟩

def IsSound (r : Record ε α) : Prop :=
  ∀ members x, r.build members = .ok x → ∀ key test, r.checks.lookup key = some test →
    ∀ v, lookup key members = some v → test v = .ok ()

theorem checked_of_read {read : Reader ε α} {v : Json} {x : α} (h : read v = .ok x) :
    checked read v = .ok () := by
  rw [checked, h]
  rfl

theorem lookup_single {γ : Type} {key k : String} {test test' : γ}
    (h : [(k, test)].lookup key = some test') : key = k ∧ test = test' := by
  rw [List.lookup_cons] at h
  split at h
  · rename_i hk
    exact ⟨beq_iff_eq.1 hk, Option.some.inj h⟩
  · cases h

theorem isSound_required (key : String) (read : Reader ε α) : (required key read).IsSound := by
  intro members x h k test htest v hv
  obtain ⟨rfl, rfl⟩ := lookup_single htest
  obtain ⟨w, hw, hx⟩ := required_build.1 h
  rw [hv] at hw
  cases hw
  exact checked_of_read hx

theorem isSound_defaulted (key : String) (read : Reader ε α) (default : α) :
    (defaulted key read default).IsSound := by
  intro members x h k test htest v hv
  obtain ⟨rfl, rfl⟩ := lookup_single htest
  rcases defaulted_build.1 h with ⟨hnone, -⟩ | ⟨w, hw, hx⟩
  · rw [hv] at hnone
    cases hnone
  · rw [hv] at hw
    cases hw
    exact checked_of_read hx

theorem isSound_seq {f : Record ε (α → β)} {r : Record ε α} (hf : f.IsSound) (hr : r.IsSound) :
    (f <*> r).IsSound := by
  intro members y h key test htest v hv
  obtain ⟨g, x, hg, hx, -⟩ := seq_build.1 h
  change (f.checks ++ r.checks).lookup key = some test at htest
  rw [List.lookup_append] at htest
  cases hfirst : f.checks.lookup key with
  | some test' =>
    rw [hfirst] at htest
    cases htest
    exact hf members g hg key test hfirst v hv
  | none =>
    rw [hfirst] at htest
    exact hr members x hx key test htest v hv

theorem isSound_map (f : α → β) {r : Record ε α} (hr : r.IsSound) : (f <$> r).IsSound := by
  have hf : (Record.pure f : Record ε (α → β)).IsSound := by
    intro members x h key test htest
    cases htest
  exact isSound_seq hf hr

theorem build_of_readMembers {r : Record ε α} {members : List (String × Json)} {x : α}
    (h : r.readMembers members = .ok x) : r.build members = .ok x := by
  obtain ⟨-, -, h⟩ := bind_eq_ok.1 h
  exact h

theorem build_of_readItems {r : Record ε α} {type : String} {items : List Json} {x : α}
    (h : r.readItems type items = .ok x) :
    r.build ((r.checks.map (·.1)).zip items) = .ok x := by
  obtain ⟨-, -, h⟩ := bind_eq_ok.1 h
  split at h
  · cases h
  · exact h

theorem check_of_sorted {checks : List (String × (Json → Except (Mismatch ε) Unit))}
    {members : List (String × Json)} (sorted : Sorted members) {seen : List String}
    (fresh : ∀ m ∈ members, m.1 ∉ seen)
    (pass : ∀ m ∈ members, ∀ test, checks.lookup m.1 = some test → test m.2 = .ok ()) :
    check checks seen members = .ok () := by
  induction members generalizing seen with
  | nil => rfl
  | cons m rest ih =>
    obtain ⟨key, v⟩ := m
    obtain ⟨above, hrest⟩ := List.pairwise_cons.1 sorted
    have passRest : ∀ m ∈ rest, ∀ test, checks.lookup m.1 = some test → test m.2 = .ok () :=
      fun m hm => pass m (List.mem_cons_of_mem _ hm)
    rw [check]
    cases hkey : checks.lookup key with
    | none => exact ih hrest (fun m hm => fresh m (List.mem_cons_of_mem _ hm)) passRest
    | some test =>
      have unseen : seen.contains key = false := by
        simpa using fresh (key, v) List.mem_cons_self
      have passed : test v = .ok () := pass (key, v) List.mem_cons_self test hkey
      simp only [unseen, passed]
      refine ih hrest ?_ passRest
      intro m hm hseen
      rcases List.mem_cons.1 hseen with hk | hs
      · have hlt := above m hm
        rw [hk] at hlt
        exact String.lt_irrefl key hlt
      · exact fresh m (List.mem_cons_of_mem _ hm) hs

theorem lookup_of_sorted {members : List (String × Json)} (sorted : Sorted members)
    {m : String × Json} (h : m ∈ members) : lookup m.1 members = some m.2 := by
  induction members with
  | nil => cases h
  | cons n rest ih =>
    obtain ⟨above, hrest⟩ := List.pairwise_cons.1 sorted
    rw [lookup]
    cases h with
    | head => rw [if_pos rfl]
    | tail _ h =>
      have hlt := above m h
      rw [if_neg, ih hrest h]
      intro hk
      rw [hk] at hlt
      exact String.lt_irrefl _ hlt

/-- A sorted object is read exactly when the record can be built from it. -/
theorem readMembers_eq_ok {r : Record ε α} (sound : r.IsSound) {members : List (String × Json)}
    (sorted : Sorted members) {x : α} :
    r.readMembers members = .ok x ↔ r.build members = .ok x := by
  constructor
  · exact build_of_readMembers
  · intro h
    have passed : check r.checks [] members = .ok () := by
      refine check_of_sorted sorted (fun _ _ => List.not_mem_nil) ?_
      intro m hm test htest
      exact sound members x h m.1 test htest m.2 (lookup_of_sorted sorted hm)
    rw [readMembers, passed]
    exact h

theorem lookup_of_check {checks : List (String × (Json → Except (Mismatch ε) Unit))}
    {members : List (String × Json)} {seen : List String}
    (h : check checks seen members = .ok ()) {m : String × Json} (hm : m ∈ members)
    (named : checks.lookup m.1 ≠ none) : m.1 ∉ seen ∧ lookup m.1 members = some m.2 := by
  induction members generalizing seen with
  | nil => cases hm
  | cons n rest ih =>
    obtain ⟨key, v⟩ := n
    rw [check] at h
    cases hkey : checks.lookup key with
    | none =>
      rw [hkey] at h
      cases hm with
      | head => exact absurd hkey named
      | tail _ hm =>
        obtain ⟨fresh, found⟩ := ih h hm
        refine ⟨fresh, ?_⟩
        rw [lookup, if_neg, found]
        intro hk
        rw [hk] at hkey
        exact named hkey
    | some test =>
      rw [hkey] at h
      dsimp only at h
      split at h
      · cases h
      · rename_i unseen
        obtain ⟨-, -, h⟩ := bind_eq_ok.1 h
        cases hm with
        | head => exact ⟨by simpa using unseen, by rw [lookup, if_pos rfl]⟩
        | tail _ hm =>
          obtain ⟨fresh, found⟩ := ih h hm
          rw [List.mem_cons, not_or] at fresh
          exact ⟨fresh.2, by rw [lookup, if_neg (Ne.symm fresh.1), found]⟩

theorem lookup_eq_none_iff {γ : Type} {checks : List (String × γ)} {key : String} :
    checks.lookup key = none ↔ key ∉ checks.map (·.1) := by
  rw [List.lookup_eq_none_iff]
  simp only [bne_iff_ne, ne_eq, List.mem_map, not_exists, not_and]
  constructor
  · intro h p hp hk
    exact h p hp hk.symm
  · intro h p hp hk
    exact h p hp hk.symm

theorem check_of_check {checks checks' : List (String × (Json → Except (Mismatch ε) Unit))}
    (keys : ∀ key, checks.lookup key = none ↔ checks'.lookup key = none)
    {members : List (String × Json)} {seen : List String}
    (h : check checks seen members = .ok ())
    (pass : ∀ m ∈ members, ∀ test, checks'.lookup m.1 = some test → test m.2 = .ok ()) :
    check checks' seen members = .ok () := by
  induction members generalizing seen with
  | nil => rfl
  | cons n rest ih =>
    obtain ⟨key, v⟩ := n
    have passRest : ∀ m ∈ rest, ∀ test, checks'.lookup m.1 = some test → test m.2 = .ok () :=
      fun m hm => pass m (List.mem_cons_of_mem _ hm)
    rw [check] at h ⊢
    cases hkey : checks.lookup key with
    | none =>
      rw [hkey] at h
      rw [(keys key).1 hkey]
      exact ih h passRest
    | some test =>
      rw [hkey] at h
      cases hkey' : checks'.lookup key with
      | none =>
        rw [(keys key).2 hkey'] at hkey
        cases hkey
      | some test' =>
        dsimp only at h ⊢
        split at h
        · cases h
        · rename_i unseen
          obtain ⟨-, -, h⟩ := bind_eq_ok.1 h
          rw [if_neg unseen, pass (key, v) List.mem_cons_self test' hkey']
          exact ih h passRest

/-- Where one record is read, another one with the same keys is read as soon as it can be built. -/
theorem readMembers_of_build {r : Record ε α} {s : Record ε β}
    (keys : r.checks.map (·.1) = s.checks.map (·.1)) (sound : s.IsSound)
    {members : List (String × Json)} {x : α} {y : β} (hr : r.readMembers members = .ok x)
    (hs : s.build members = .ok y) : s.readMembers members = .ok y := by
  obtain ⟨_, tested, -⟩ := bind_eq_ok.1 hr
  have keys : ∀ key, r.checks.lookup key = none ↔ s.checks.lookup key = none := by
    intro key
    rw [lookup_eq_none_iff, lookup_eq_none_iff, keys]
  have passed : check s.checks [] members = .ok () := by
    refine check_of_check keys tested ?_
    intro m hm test htest
    have named : r.checks.lookup m.1 ≠ none := by
      rw [Ne, keys, htest]
      simp
    exact sound members y hs m.1 test htest m.2 (lookup_of_check tested hm named).2
  rw [readMembers, passed]
  exact hs

end SearchQuery.Json.Record
