import SearchQuery.Proofs.Json.Finite
import SearchQuery.Proofs.Json.Records

/-!
# Values that are read back

A reader restores what a writer writes when it takes the values of a certain kind back to
themselves and no written value to anything else (`Json.Restores`).  What readers take from finite
values is finite in turn (`Json.Reader.Yields`).
-/

set_option autoImplicit false
namespace SearchQuery.Json

variable {ε α β : Type}

/-- What was written is read as itself if `p` holds of it, and else not at all. -/
def Restores (read : Reader ε α) (write : α → Json) (p : α → Prop) : Prop :=
  ∀ x y, read (write x).normalize = .ok y ↔ p x ∧ y = x

abbrev RestoresAll (read : Reader ε α) (write : α → Json) : Prop :=
  Restores read write fun _ => True

theorem RestoresAll.intro {read : Reader ε α} {write : α → Json}
    (h : ∀ x, read (write x).normalize = .ok x) : RestoresAll read write := by
  intro x y
  rw [h x]
  simp [eq_comm]

theorem restores_text : RestoresAll (text : Reader ε String) .string := .intro fun _ => rfl

theorem restores_flag : RestoresAll (flag : Reader ε Bool) .boolean := .intro fun _ => rfl

theorem restores_natural32 : RestoresAll (natural32 : Reader ε UInt32) ofUInt32 := by
  refine .intro fun x => ?_
  have bound := x.toNat_lt
  have range : 0 ≤ (x.toNat : Int) ∧ (x.toNat : Int) < 0x100000000 := by omega
  unfold ofUInt32 natural32
  rw [normalize]
  · dsimp only
    rw [if_pos range, Int.toNat_natCast, UInt32.ofNat_toNat]
  · simp
  · simp

theorem restores_choice {options : List (String × α)} {name : α → String}
    (h : ∀ x, options.lookup (name x) = some x) :
    RestoresAll (choice options : Reader ε α) fun x => .string (name x) := by
  refine .intro fun x => ?_
  change choice.named options (name x) = .ok x
  unfold choice.named
  rw [h x]

theorem normalize_ofFloat (x : Float) : (ofFloat x).normalize = ofFloat x := by
  unfold ofFloat
  split <;> rfl

theorem restores_real : Restores (real : Reader ε Float) ofFloat fun x => x.isFinite = true := by
  intro x y
  rw [normalize_ofFloat]
  unfold ofFloat
  by_cases h : x.isFinite = true
  · rw [if_pos h]
    change Except.ok x = Except.ok y ↔ _
    simp [h, eq_comm]
  · rw [if_neg h]
    refine iff_of_false ?_ fun both => h both.1
    intro hy
    cases hy

theorem normalizeItems_map (write : α → Json) (xs : List α) :
    normalizeItems (xs.map write) = xs.map fun x => (write x).normalize := by
  induction xs with
  | nil => rfl
  | cons x rest ih => rw [List.map_cons, normalizeItems, ih, List.map_cons]

theorem Restores.listOf {read : Reader ε α} {write : α → Json} {p : α → Prop}
    (h : Restores read write p) :
    Restores (listOf read) (fun xs => .array (xs.map write)) fun xs => ∀ x ∈ xs, p x := by
  intro xs ys
  rw [normalize, normalizeItems_map]
  change readEach read _ = .ok ys ↔ _
  induction xs generalizing ys with
  | nil =>
    change Except.ok [] = Except.ok ys ↔ _
    simp [eq_comm]
  | cons x rest ih =>
    rw [List.map_cons, readEach]
    simp only [bind_eq_ok, pure_eq_ok]
    constructor
    · rintro ⟨y, hy, zs, hzs, rfl⟩
      obtain ⟨hx, rfl⟩ := (h x y).1 hy
      obtain ⟨hrest, rfl⟩ := (ih zs).1 hzs
      exact ⟨List.forall_mem_cons.2 ⟨hx, hrest⟩, rfl⟩
    · rintro ⟨hall, rfl⟩
      obtain ⟨hx, hrest⟩ := List.forall_mem_cons.1 hall
      exact ⟨x, (h x x).2 ⟨hx, rfl⟩, rest, (ih rest).2 ⟨hrest, rfl⟩, rfl⟩

def valueMembers (members : List (String × Json)) : List (String × Json) :=
  sortMembers (normalizeMembers members)

theorem valueMembers_sorted (members : List (String × Json)) : Sorted (valueMembers members) :=
  sortMembers_sorted _

theorem lookup_valueMembers (key : String) (members : List (String × Json)) :
    lookup key (valueMembers members) = (latest key members).map normalize := by
  rw [valueMembers, lookup_sortMembers, latest_normalizeMembers]

/-- The record recovers `x` from the members that were written, provided that `p`. -/
def Record.Recovers (r : Record ε α) (members : List (String × Json)) (p : Prop) (x : α) : Prop :=
  ∀ y, r.build (valueMembers members) = .ok y ↔ p ∧ y = x

namespace Record.Recovers
variable {members : List (String × Json)} {key : String} {read : Reader ε α} {write : α → Json}

theorem required {v : Json} {p : Prop} {x : α} (h : ∀ y, read v.normalize = .ok y ↔ p ∧ y = x)
    (written : latest key members = some v) : (Record.required key read).Recovers members p x := by
  intro y
  rw [required_build, lookup_valueMembers, written, ← h y]
  simp

theorem defaulted {x default : α} (h : RestoresAll read write)
    (written : latest key members = some (write x) ∨ latest key members = none ∧ x = default) :
    (Record.defaulted key read default).Recovers members True x := by
  intro y
  rw [defaulted_build, lookup_valueMembers]
  rcases written with written | ⟨absent, rfl⟩
  · rw [written, ← h x y]
    simp
  · simp [absent]

theorem nullable_of_ok {v : Json} {x : α} (notNull : v ≠ .null) (h : read v = .ok x) :
    nullable read v = .ok (some x) := by
  cases v with
  | null => exact absurd rfl notNull
  | _ =>
    change (read _).map some = _
    rw [h]
    rfl

theorem optional {x : Option α} (h : RestoresAll read write)
    (notNull : ∀ a, (write a).normalize ≠ .null) (written : latest key members = x.map write) :
    (Record.optional key read).Recovers members True x := by
  intro y
  rw [Record.optional, defaulted_build, lookup_valueMembers, written]
  cases x with
  | none => simp
  | some a => simp [nullable_of_ok (notNull a) ((h a a).2 ⟨trivial, rfl⟩), eq_comm]

theorem optional_real {x : Option Float} (written : latest key members = x.map ofFloat) :
    (Record.optional key (real : Reader ε Float)).Recovers members True
      (x.filter Float.isFinite) := by
  intro y
  rw [Record.optional, defaulted_build, lookup_valueMembers, written]
  cases x with
  | none => simp
  | some a =>
    by_cases finite : a.isFinite = true
    · have number : (ofFloat a).normalize = .number (.real a) := by
        rw [normalize_ofFloat, ofFloat, if_pos finite]
      have kept : nullable (real : Reader ε Float) (.number (.real a)) = .ok (some a) := rfl
      simp [number, kept, finite, Option.filter, eq_comm]
    · have null : (ofFloat a).normalize = .null := by
        rw [normalize_ofFloat, ofFloat, if_neg finite]
      have dropped : nullable (real : Reader ε Float) .null = .ok none := rfl
      simp [null, dropped, finite, Option.filter, eq_comm]

theorem congr {r : Record ε α} {p q : Prop} {x : α} (h : r.Recovers members p x) (hpq : p ↔ q) :
    r.Recovers members q x := by
  intro y
  rw [h y, hpq]

theorem seq {f : Record ε (α → β)} {r : Record ε α} {p q : Prop} {g : α → β} {x : α}
    (hf : f.Recovers members p g) (hr : r.Recovers members q x) :
    (f <*> r).Recovers members (p ∧ q) (g x) := by
  intro y
  rw [seq_build]
  constructor
  · rintro ⟨g', x', hg, hx, rfl⟩
    obtain ⟨hp, rfl⟩ := (hf g').1 hg
    obtain ⟨hq, rfl⟩ := (hr x').1 hx
    exact ⟨⟨hp, hq⟩, rfl⟩
  · rintro ⟨⟨hp, hq⟩, rfl⟩
    exact ⟨g, x, (hf g).2 ⟨hp, rfl⟩, (hr x).2 ⟨hq, rfl⟩, rfl⟩

theorem map {r : Record ε α} {p : Prop} {x : α} (f : α → β) (hr : r.Recovers members p x) :
    (f <$> r).Recovers members p (f x) := by
  intro y
  rw [map_build]
  constructor
  · rintro ⟨x', hx, rfl⟩
    obtain ⟨hp, rfl⟩ := (hr x').1 hx
    exact ⟨hp, rfl⟩
  · rintro ⟨hp, rfl⟩
    exact ⟨x, (hr x).2 ⟨hp, rfl⟩, rfl⟩

end Record.Recovers

/-- All that is read from finite values has the property `p`. -/
def Yields (read : Reader ε α) (p : α → Prop) : Prop :=
  ∀ v x, v.IsFinite → read v = .ok x → p x

theorem yields_real : Yields (real : Reader ε Float) fun x => x.isFinite = true := by
  intro v x finite h
  cases v with
  | number n =>
    cases h
    exact Number.IsFinite.toFloat finite
  | _ => cases h

theorem readEach_yields {read : Reader ε α} {p : α → Prop} (h : Yields read p) {items : List Json}
    (finite : ItemsFinite items) {xs : List α} (hread : readEach read items = .ok xs) :
    ∀ x ∈ xs, p x := by
  induction items generalizing xs with
  | nil =>
    cases hread
    simp
  | cons v rest ih =>
    rw [readEach] at hread
    simp only [bind_eq_ok, pure_eq_ok] at hread
    obtain ⟨x, hx, ys, hys, rfl⟩ := hread
    exact List.forall_mem_cons.2 ⟨h v x finite.1 hx, ih finite.2 hys⟩

theorem Yields.listOf {read : Reader ε α} {p : α → Prop} (h : Yields read p) :
    Yields (listOf read) fun xs => ∀ x ∈ xs, p x := by
  intro v xs finite hread
  cases v with
  | array items => exact readEach_yields h finite hread
  | _ => cases hread

theorem Yields.nullable {read : Reader ε α} {p : α → Prop} (h : Yields read p) :
    Yields (nullable read) fun x => ∀ a ∈ x, p a := by
  intro v x finite hread
  cases v with
  | null =>
    cases hread
    simp
  | _ =>
    obtain ⟨a, ha, rfl⟩ := map_eq_ok.1 hread
    simpa using h _ a finite ha

section Members
variable {members : List (String × Json)} {key : String} {read : Reader ε α} {p : α → Prop}

theorem required_yields (h : Yields read p) (finite : MembersFinite members) {x : α}
    (built : (Record.required key read).build members = .ok x) : p x := by
  obtain ⟨v, hv, hx⟩ := Record.required_build.1 built
  exact h v x (lookup_isFinite finite hv) hx

theorem optional_yields (h : Yields read p) (finite : MembersFinite members) {x : Option α}
    (built : (Record.optional key read).build members = .ok x) : ∀ a ∈ x, p a := by
  rcases Record.defaulted_build.1 built with ⟨-, rfl⟩ | ⟨v, hv, hx⟩
  · simp
  · exact h.nullable v x (lookup_isFinite finite hv) hx

end Members

theorem zip_finite {items : List Json} (finite : ItemsFinite items) (keys : List String) :
    MembersFinite (keys.zip items) := by
  rw [membersFinite_iff]
  intro m hm
  exact itemsFinite_iff.1 finite m.2 (List.of_mem_zip hm).2

theorem Record.build_of_read {r : Record ε α} {type surplus : String} {v : Json} {x : α}
    (finite : v.IsFinite) (h : r.read type surplus v = .ok x) :
    ∃ members, MembersFinite members ∧ r.build members = .ok x := by
  cases v with
  | object members => exact ⟨members, finite, build_of_readMembers h⟩
  | array items =>
    obtain ⟨y, hy, h⟩ := bind_eq_ok.1 h
    split at h
    · cases h
    · cases h
      exact ⟨_, zip_finite finite _, build_of_readItems hy⟩
  | _ => cases h

end SearchQuery.Json
