import SearchQuery.PreSearch
import SearchQuery.Proofs.Json.Objects

/-!
# Reading pre-search data

Of an object only the member under the reserved key counts.  Main statement: two texts of objects
with the same value under it, or with none, are read alike; the value is null or a list of hits, and
the plan matches these in their order.
-/

set_option autoImplicit false
namespace SearchQuery.PreSearch
open Json (Cursor lookup hasKey Mismatch)

theorem readMembers_of_read {bytes : List UInt8} {members : List (String × Json)}
    (h : Json.read bytes = .ok (.object members)) : readMembers bytes = .ok members := by
  obtain ⟨v, document, same⟩ := bind_eq_ok.1 h
  obtain ⟨raw, rfl, rfl⟩ := Json.object_of_normalize (Except.ok.inj same)
  obtain ⟨⟨w, k⟩, value, rest⟩ := bind_eq_ok.1 document
  obtain ⟨⟨⟩, finish, done⟩ := bind_eq_ok.1 rest
  cases done
  obtain ⟨r, start⟩ := Json.brace_of_readValue value
  have inside := Json.members_of_readValue value
  have less := Json.next_length (Cursor.ofBytes bytes).skipSpace
  have record := Json.readRecord_members
    (fun key v members => Json.putMember key v.normalize members) inside
    (Nat.lt_succ_of_le (Nat.le_of_eq less |>.trans (Nat.sub_le ..))) [] []
  have brace : ¬(Cursor.ofBytes bytes).skipSpace.rest.head? = some 110 := by
    rw [start, List.head?_cons]
    decide
  rw [Json.foldl_putMember] at record
  rw [readMembers]
  dsimp only
  rw [if_neg brace, Json.readObject_brace _ _ _ _ start]
  change Cursor.complete (Cursor.readRecord [] _ (Json.maxDepth - 1) _ true [] [] _) = _
  rw [record, Cursor.complete, ok_bind]
  dsimp only
  rw [finish]
  rfl

/-- The hits of the member under the reserved key: without the member and for null there are none,
and for a list those of its items. -/
inductive Lists : Option Json → List Hit → Prop
  | absent : Lists none []
  | null : Lists (some .null) []
  | array {items : List Json} {hits : List Hit}
      (each : List.Forall₂ (fun v hit => Hit.read v = .ok hit) items hits) :
      Lists (some (.array items)) hits

/-- What is wrong with the member: it is no list, or an item is the first that is no hit. -/
inductive Refuses : Option Json → Mismatch Empty → Prop
  | type {v : Json} (null : v ≠ .null) (array : ∀ items, v ≠ .array items) :
      Refuses (some v) (.invalidType v.found "a sequence")
  | item {before behind : List Json} {v : Json} {hits : List Hit} {m : Mismatch Empty}
      (each : List.Forall₂ (fun v hit => Hit.read v = .ok hit) before hits)
      (fails : Hit.read v = .error m) : Refuses (some (.array (before ++ v :: behind))) m

theorem readHits_eq_ok {v : Json} {hits : List Hit} :
    readHits v = .ok hits ↔ Lists (some v) hits := by
  constructor
  · intro h
    cases v with
    | null =>
      cases h
      exact .null
    | array items => exact .array (Json.readEach_eq_ok.1 h)
    | _ => cases h
  · intro h
    cases h with
    | null => rfl
    | array each => exact Json.readEach_eq_ok.2 each

theorem readHits_eq_error {v : Json} {m : Mismatch Empty} :
    readHits v = .error m ↔ Refuses (some v) m := by
  constructor
  · intro h
    cases v with
    | null => cases h
    | array items =>
      obtain ⟨before, w, behind, hits, rfl, each, fails⟩ := Json.exists_of_readEach h
      exact .item each fails
    | _ =>
      cases h
      exact .type nofun nofun
  · intro h
    cases h with
    | type null array =>
      cases v with
      | null => exact absurd rfl null
      | array items => exact absurd rfl (array items)
      | _ => rfl
    | item each fails => exact Json.readEach_append each fails _

def ofMember : Option Json → Except PreSearchError PreSearch
  | none => .ok {}
  | some v => ((readHits v).mapError (.payload neighbourKey)).map (insert neighbourKey · {})

theorem read_of_object {bytes : List UInt8} {members : List (String × Json)}
    (h : Json.read bytes = .ok (.object members)) :
    read bytes = ofMember (lookup neighbourKey members) := by
  rw [read, readMembers_of_read h]
  change (match lookup neighbourKey members with
    | none => (return {} : Except PreSearchError PreSearch)
    | some v => do
      let hits ← (readHits v).mapError (.payload neighbourKey)
      return insert neighbourKey hits {}) = _
  cases lookup neighbourKey members with
  | none => rfl
  | some v =>
    dsimp only [ofMember]
    cases readHits v with
    | error m => rfl
    | ok hits => rfl

theorem ofMember_eq_ok {member : Option Json} {data : PreSearch} :
    ofMember member = .ok data ↔ ∃ hits, Lists member hits ∧
      data.entries = if member.isSome then [(neighbourKey, hits)] else [] := by
  cases member with
  | none =>
    constructor
    · intro h
      cases h
      exact ⟨[], .absent, rfl⟩
    · rintro ⟨hits, -, entries⟩
      obtain ⟨_⟩ := data
      cases entries
      rfl
  | some v =>
    simp only [ofMember, map_eq_ok, mapError_eq_ok, readHits_eq_ok]
    constructor
    · rintro ⟨hits, lists, rfl⟩
      exact ⟨hits, lists, rfl⟩
    · rintro ⟨hits, lists, entries⟩
      obtain ⟨_⟩ := data
      cases entries
      exact ⟨hits, lists, rfl⟩

theorem ofMember_eq_error {member : Option Json} {e : PreSearchError} :
    ofMember member = .error e ↔ ∃ m, Refuses member m ∧ e = .payload neighbourKey m := by
  cases member with
  | none =>
    refine iff_of_false nofun ?_
    rintro ⟨m, refuses, -⟩
    cases refuses
  | some v =>
    simp only [ofMember, map_eq_error, mapError_eq_error, readHits_eq_error]
    constructor
    · rintro ⟨m, refuses, rfl⟩
      exact ⟨m, refuses, rfl⟩
    · rintro ⟨m, refuses, rfl⟩
      exact ⟨m, refuses, rfl⟩

theorem neighbours_of_entries {member : Option Json} {hits : List Hit} (lists : Lists member hits)
    {data : PreSearch}
    (entries : data.entries = if member.isSome then [(neighbourKey, hits)] else []) :
    data.neighbours = hits := by
  rw [neighbours, get?, entries]
  cases lists with
  | absent => rfl
  | null => rfl
  | array each => simp

theorem plan_eq (data : PreSearch) (options : Options) :
    data.plan options = if data.neighbours = [] then none else
      some (.leaf (.scored (data.neighbours.map fun hit => (hit.id, hit.score)))
        Query.defaultBoost options) := by
  rw [plan]
  by_cases none : data.neighbours = []
  · rw [none]
    rfl
  · rw [if_neg none, if_neg (by simpa using none)]
    rfl

/-- Of two objects with the same value under the reserved key, or without it, the same is read.
The data has that key if they do, and no other; its hits are those of the value, and its plan, which
there is if there are hits, matches them in their order.  Reading fails only at the value. -/
theorem read_reserved {a b : List UInt8} {xs ys : List (String × Json)}
    (first : Json.read a = .ok (.object xs)) (second : Json.read b = .ok (.object ys))
    (same : lookup neighbourKey xs = lookup neighbourKey ys) :
    read a = read b ∧
      (∀ data, read a = .ok data →
        data.entries.map (·.1) = (if hasKey xs neighbourKey then [neighbourKey] else []) ∧
        Lists (lookup neighbourKey xs) data.neighbours ∧
        ∀ options, data.plan options = if data.neighbours = [] then none else
          some (.leaf (.scored (data.neighbours.map fun hit => (hit.id, hit.score)))
            Query.defaultBoost options)) ∧
      (∀ hits, Lists (lookup neighbourKey xs) hits →
        ∃ data, read a = .ok data ∧ data.neighbours = hits) ∧
      ∀ e, read a = .error e ↔
        ∃ m, Refuses (lookup neighbourKey xs) m ∧ e = .payload neighbourKey m := by
  rw [read_of_object first, read_of_object second, same]
  refine ⟨rfl, fun data h => ?_, fun hits lists => ?_, fun e => ofMember_eq_error⟩
  · obtain ⟨hits, lists, entries⟩ := ofMember_eq_ok.1 h
    refine ⟨?_, ?_, plan_eq data⟩
    · rw [entries, hasKey, same]
      cases lookup neighbourKey ys with
      | none => rfl
      | some v => rfl
    · rw [neighbours_of_entries lists entries]
      exact lists
  · let data : PreSearch :=
      ⟨if (lookup neighbourKey ys).isSome then [(neighbourKey, hits)] else []⟩
    have read : ofMember (lookup neighbourKey ys) = .ok data :=
      ofMember_eq_ok.2 ⟨hits, lists, rfl⟩
    exact ⟨data, read, neighbours_of_entries lists rfl⟩

set_option maxRecDepth 1024 in
theorem read_reserved_twice :
    let score := Json.number (.integer 2 (by decide))
    let items : List Json := [
      .object [("fields", .object [("t", .string "u")]), ("id", .string "b"),
        ("index", .string "i"), ("score", score), ("sort", .array [.string "k"])],
      .object [("id", .string "a")]]
    let hits : List Hit := [
      { index := "i", id := "b", score := Float.ofNat 2, sort := [.string "k"],
        fields := [("t", .string "u")] },
      { id := "a" }]
    let a := bytesOf ("\x7b\"_knn_pre_search_data_key\":[\x7b\"index\":\"i\",\"id\":\"b\"," ++
      "\"score\":2,\"sort\":[\"k\"],\"fields\":\x7b\"t\":\"u\"\x7d\x7d," ++
      "\x7b\"id\":\"a\"\x7d],\"x\":\x7b\x7d\x7d")
    let b := bytesOf ("\x7b\"_knn_pre_search_data_key\":7,\"_knn_pre_search_data_key\":[" ++
      "\x7b\"fields\":\x7b\"t\":\"u\"\x7d,\"sort\":[\"k\"],\"score\":2,\"id\":\"b\"," ++
      "\"index\":\"i\"\x7d,\x7b\"id\":\"a\"\x7d]\x7d")
    let xs := [(neighbourKey, Json.array items), ("x", .object [])]
    let ys := [(neighbourKey, Json.array items)]
    (Json.read a = .ok (.object xs) ∧ Json.read b = .ok (.object ys) ∧
      lookup neighbourKey xs = lookup neighbourKey ys) ∧
      read a = read b ∧
      Lists (lookup neighbourKey xs) hits ∧
      ∃ data, read a = .ok data ∧ data.neighbours = hits ∧
        data.entries.map (·.1) = [neighbourKey] ∧
        ∀ options, data.plan options = some (.leaf (.scored [("b", Float.ofNat 2), ("a", 0.0)])
          Query.defaultBoost options) := by
  intro score items hits a b xs ys
  have first : Json.read a = .ok (.object xs) := by rfl
  have second : Json.read b = .ok (.object ys) := by rfl
  have same : lookup neighbourKey xs = lookup neighbourKey ys := by rfl
  have lists : Lists (lookup neighbourKey xs) hits := .array (.cons rfl (.cons rfl .nil))
  obtain ⟨alike, listed, found, -⟩ := read_reserved first second same
  obtain ⟨data, read, neighbours⟩ := found hits lists
  obtain ⟨keys, -, plan⟩ := listed data read
  rw [neighbours] at plan
  exact ⟨⟨first, second, same⟩, alike, lists, data, read, neighbours, keys, plan⟩

end SearchQuery.PreSearch
