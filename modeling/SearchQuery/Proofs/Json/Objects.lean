import SearchQuery.Json.Typed
import SearchQuery.Proofs.Json.Taken

/-!
# Objects and lists that are read as others

The typed reader of objects, without a key that it knows, takes from a text the members that the
reader of values takes (`Json.readRecord_members`).  A list is read item by item up to the first that
does not fit (`Json.readEach_eq_ok`, `Json.exists_of_readEach`).
-/

set_option autoImplicit false
namespace SearchQuery.Json

theorem skipFrom_skipSpace (p : Position) (cs : List UInt8) :
    (Cursor.skipFrom p cs).skipSpace = Cursor.skipFrom p cs := by
  induction cs generalizing p with
  | nil => rfl
  | cons b rest ih =>
    rw [Cursor.skipFrom]
    split
    · exact ih _
    · rename_i dark
      exact if_neg dark

theorem skipSpace_skipSpace (c : Cursor) : c.skipSpace.skipSpace = c.skipSpace :=
  skipFrom_skipSpace _ _

theorem untyped_ok {α : Type} (x : α) : Cursor.untyped (.ok x) = .ok x := rfl

theorem readRecord_members {σ : Type} (other : String → Json → σ → σ) {depth fuel : Nat}
    {first : Bool} {c k : Cursor} {members : List (String × Json)}
    (h : readMembers fuel depth first c = .ok (members, k)) {steps : Nat}
    (enough : c.rest.length < steps) (seen : List String) (state : σ) :
    Cursor.readRecord [] other depth steps first seen state c =
      .ok (members.foldl (fun s m => other m.1 m.2 s) state, k) := by
  -- By the steps of the first reader: each leaves fewer bytes, and so steps enough for the second.
  induction fuel generalizing first c members steps state with
  | zero => cases h
  | succ fuel ih =>
    obtain ⟨steps, rfl⟩ : ∃ n, steps = n + 1 := ⟨steps - 1, by omega⟩
    rw [readMembers] at h
    obtain ⟨⟨more, c₁⟩, has, h⟩ := bind_eq_ok.1 h
    obtain ⟨-, shorter⟩ := hasMember_takes c first more c₁ has
    rw [Cursor.readRecord, has, untyped_ok, ok_bind]
    cases more with
    | false =>
      cases h
      rfl
    | true =>
      obtain ⟨⟨key, c₂⟩, named, h⟩ := bind_eq_ok.1 h
      obtain ⟨⟨⟨⟩, c₃⟩, colon, h⟩ := bind_eq_ok.1 h
      obtain ⟨⟨v, c₄⟩, read, h⟩ := bind_eq_ok.1 h
      obtain ⟨⟨rest, c₅⟩, read', h⟩ := bind_eq_ok.1 h
      cases h
      obtain ⟨value, less⟩ := value_of_readValue read
      have lessKey := string_takes c₁ key c₂ named
      have lessColon := colon_takes c₂ () c₃ colon
      have others : Cursor.readRecord [] other depth steps false seen (other key v state) c₄ =
          .ok (rest.foldl (fun s m => other m.1 m.2 s) (other key v state), k) :=
        ih read' (by omega) _
      dsimp only
      rw [if_pos rfl, named, untyped_ok, ok_bind]
      dsimp only [List.lookup_nil]
      rw [colon, untyped_ok, ok_bind]
      dsimp only
      rw [value, untyped_ok, ok_bind]
      exact others

theorem foldl_putMember (members sorted : List (String × Json)) :
    members.foldl (fun s m => putMember m.1 m.2.normalize s) sorted =
      (normalizeMembers members).foldl (fun s m => putMember m.1 m.2 s) sorted := by
  induction members generalizing sorted with
  | nil => rfl
  | cons m rest ih => exact ih _

/-- Only what begins with a brace is read as an object. -/
theorem brace_of_readValue {fuel depth : Nat} {c k : Cursor} {members : List (String × Json)}
    (h : readValue fuel depth c = .ok (.object members, k)) :
    ∃ r, c.skipSpace.rest = 123 :: r := by
  cases fuel with
  | zero => cases h
  | succ fuel =>
    rw [readValue] at h
    dsimp only at h
    split at h
    · cases h
    · rename_i b r start
      by_cases object : b = 123
      · exact ⟨r, by rw [start, object]⟩
      · rw [if_neg object] at h
        repeat' split at h
        all_goals
          first
          | cases h
          | obtain ⟨_, _, h⟩ := bind_eq_ok.1 h
            cases h

theorem members_of_readValue {fuel depth : Nat} {c k : Cursor} {members : List (String × Json)}
    (h : readValue (fuel + 1) depth c = .ok (.object members, k)) :
    readMembers fuel (depth - 1) true c.skipSpace.next = .ok (members, k) := by
  obtain ⟨r, start⟩ := brace_of_readValue h
  rw [readValue_object_at start] at h
  split at h
  · cases h
  · obtain ⟨⟨raw, j⟩, read, same⟩ := map_eq_ok.1 h
    cases same
    exact read

theorem object_of_normalize {v : Json} {members : List (String × Json)}
    (h : v.normalize = .object members) :
    ∃ raw, v = .object raw ∧ members = sortMembers (normalizeMembers raw) := by
  cases v with
  | object raw =>
    cases h
    exact ⟨raw, rfl, rfl⟩
  | _ => cases h

theorem readObject_brace {σ : Type} (expected : String) (known : List (Cursor.Member σ))
    (other : String → Json → σ → σ) (state : σ) {c : Cursor} {r : List UInt8}
    (start : c.skipSpace.rest = 123 :: r) :
    c.skipSpace.readObject expected known other state =
      Cursor.readRecord known other (maxDepth - 1) (c.skipSpace.rest.length + 1) true [] state
        c.skipSpace.next := by
  have here : c.skipSpace.toValue = .ok c.skipSpace := by
    rw [Cursor.toValue, skipSpace_skipSpace, start]
    rfl
  rw [Cursor.readObject, here, ok_bind, if_pos (by rw [start]; rfl)]

section Items
variable {ε α : Type} {read : Reader ε α}

theorem readEach_eq_ok {items : List Json} {xs : List α} :
    readEach read items = .ok xs ↔ List.Forall₂ (fun v x => read v = .ok x) items xs := by
  induction items generalizing xs with
  | nil =>
    rw [readEach, List.forall₂_nil_left_iff]
    exact ⟨fun h => (Except.ok.inj h).symm, fun h => h ▸ rfl⟩
  | cons v rest ih =>
    simp only [readEach, bind_eq_ok, pure_eq_ok, List.forall₂_cons_left_iff, ih]
    constructor
    · rintro ⟨x, first, others, each, rfl⟩
      exact ⟨x, others, first, each, rfl⟩
    · rintro ⟨x, others, first, each, rfl⟩
      exact ⟨x, first, others, each, rfl⟩

theorem readEach_append {before : List Json} {xs : List α}
    (each : List.Forall₂ (fun v x => read v = .ok x) before xs) {v : Json} {m : Mismatch ε}
    (fails : read v = .error m) (behind : List Json) :
    readEach read (before ++ v :: behind) = .error m := by
  induction each with
  | nil =>
    rw [List.nil_append, readEach, fails]
    rfl
  | cons first _ ih =>
    rw [List.cons_append, readEach, first, ok_bind, ih]
    rfl

theorem exists_of_readEach {items : List Json} {m : Mismatch ε}
    (h : readEach read items = .error m) : ∃ before v behind xs,
      items = before ++ v :: behind ∧ List.Forall₂ (fun v x => read v = .ok x) before xs ∧
        read v = .error m := by
  induction items with
  | nil => cases h
  | cons v rest ih =>
    rw [readEach] at h
    cases first : read v with
    | error m' =>
      rw [first] at h
      cases h
      exact ⟨[], v, rest, [], rfl, .nil, first⟩
    | ok x =>
      rw [first, ok_bind] at h
      cases others : readEach read rest with
      | ok xs =>
        rw [others] at h
        cases h
      | error m' =>
        rw [others] at h
        cases h
        obtain ⟨before, w, behind, xs, rfl, each, fails⟩ := ih others
        exact ⟨v :: before, w, behind, x :: xs, rfl, .cons first each, fails⟩

end Items

end SearchQuery.Json
