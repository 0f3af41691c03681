import SearchQuery.Proofs.Geo.Written
import SearchQuery.Proofs.Json.Nesting

/-!
# How deep figures nest

A point that is given by a text is written one level deeper, as a pair.  Shapes hold pairs only, and
are written as deep as they are given, as objects or as arrays.  A coordinate that is not finite is
written as null, so all numbers that are written are finite.
-/

set_option autoImplicit false
namespace SearchQuery.Geo
open Json (Nests depthMembers depthItems)

variable {ε : Type}

namespace Point

@[simp] theorem depth_toJson (p : Point) : p.toJson.depth = 1 := by
  rw [toJson, Json.depth, depthItems, depthItems, depthItems, Json.depth_ofFloat,
    Json.depth_ofFloat]
  rfl

theorem toJson_isFinite (p : Point) : p.toJson.IsFinite :=
  ⟨Json.ofFloat_isFinite p.lon, Json.ofFloat_isFinite p.lat, trivial⟩

theorem nests_read (refuse : String → ε) : Nests (read refuse) toJson 1 := by
  intro v p _
  rw [depth_toJson]
  exact Nat.le_add_left 1 _

theorem nests_readPair : Nests (readPair : Json.Reader ε Point) toJson 0 := by
  intro v p h
  rw [depth_toJson]
  cases v with
  | array items => exact Nat.succ_le_succ (Nat.zero_le _)
  | _ => cases h

end Point

namespace Shape

theorem nests_points :
    Nests (Json.listOf Point.readPair : Json.Reader ε (List Point)) pointsJson 0 :=
  Point.nests_readPair.listOf

theorem nests_lines :
    Nests (Json.listOf (Json.listOf Point.readPair) : Json.Reader ε _) linesJson 0 :=
  nests_points.listOf

theorem depth_tagged (type : String) (members : List (String × Json)) :
    (tagged type members).depth = depthMembers members + 1 := by
  rw [tagged, Json.depth, depthMembers, Json.depth_string, Nat.zero_max]

/-- The shapes among these results are written at most `n` levels deep. -/
def PartsWithin (n : Nat) (parts : List (Result ε)) : Prop :=
  ∀ r ∈ parts, ∀ s, r = .ok s → s.toJson.depth ≤ n

theorem PartsWithin.mono {n k : Nat} {parts : List (Result ε)} (h : PartsWithin n parts)
    (hk : n ≤ k) : PartsWithin k parts := fun r hr s hs => Nat.le_trans (h r hr s hs) hk

theorem firstFault_depth {n : Nat} {parts : List (Result ε)} (h : PartsWithin n parts)
    {shapes : List Shape} (hread : firstFault parts = .ok shapes) :
    depthItems (toJsons shapes) ≤ n := by
  induction parts generalizing shapes with
  | nil =>
    cases hread
    exact Nat.zero_le n
  | cons r rest ih =>
    rw [firstFault] at hread
    simp only [bind_eq_ok, pure_eq_ok] at hread
    obtain ⟨s, hs, more, hmore, rfl⟩ := hread
    obtain ⟨first, others⟩ := List.forall_mem_cons.1 h
    rw [toJsons, depthItems]
    exact Nat.max_le.2 ⟨first s hs, ih others hmore⟩

theorem depth_coordinates (type key : String) (v : Json) :
    (tagged type [(key, v)]).depth = v.depth + 1 := by
  rw [depth_tagged, depthMembers, depthMembers, Nat.max_zero]

theorem record_depth {tag : Tag} {parts : List (Result ε)} {members : List (String × Json)}
    {n : Nat} (within : depthMembers members ≤ n) (h : PartsWithin (n - 1) parts) {s : Shape}
    (built : (record parts tag).build members = .ok s) : s.toJson.depth ≤ n + 1 := by
  have coordinates {α : Type} {read : Json.Reader ε α} {write : α → Json}
      (nests : Nests read write 0) {x : α}
      (hx : (Json.Record.required "coordinates" read).build members = .ok x) :
      (write x).depth + 1 ≤ n + 1 :=
    Nat.succ_le_succ (Nat.le_trans (Json.required_nests nests hx) within)
  cases tag with
  | point =>
    obtain ⟨x, hx, rfl⟩ := Json.Record.map_build.1 built
    rw [toJson, depth_coordinates]
    exact coordinates Point.nests_readPair hx
  | lineString | multiPoint | envelope =>
    obtain ⟨x, hx, rfl⟩ := Json.Record.map_build.1 built
    rw [toJson, depth_coordinates]
    exact coordinates nests_points hx
  | polygon | multiLineString =>
    obtain ⟨x, hx, rfl⟩ := Json.Record.map_build.1 built
    rw [toJson, depth_coordinates]
    exact coordinates nests_lines hx
  | multiPolygon =>
    obtain ⟨x, hx, rfl⟩ := Json.Record.map_build.1 built
    rw [toJson, depth_coordinates]
    exact coordinates nests_lines.listOf hx
  | circle =>
    obtain ⟨make, radius, hmake, -, rfl⟩ := Json.Record.seq_build.1 built
    obtain ⟨center, hcenter, rfl⟩ := Json.Record.map_build.1 hmake
    have center := coordinates Point.nests_readPair hcenter
    rw [toJson, depth_tagged, depthMembers, depthMembers, depthMembers, Json.depth_string]
    simpa using center
  | collection =>
    obtain ⟨x, hx, rfl⟩ := Json.Record.map_build.1 built
    obtain ⟨v, hv, hread⟩ := Json.Record.required_build.1 hx
    have some := Json.depth_le_of_lookup hv
    cases v with
    | array items =>
      have parts := firstFault_depth h hread
      rw [Json.depth] at some
      rw [toJson, depth_coordinates, Json.depth]
      omega
    | _ => cases hread

theorem readRecord_depth {tag : Tag} {parts : List (Result ε)} {v : Json} {n : Nat}
    (within : v.depth ≤ n + 1) (h : PartsWithin (n - 1) parts) {s : Shape}
    (hread : readRecord tag parts v = .ok s) : s.toJson.depth ≤ n + 1 := by
  obtain ⟨members, shallow, built⟩ := Json.Record.members_of_read hread
  exact record_depth (Nat.le_of_succ_le_succ (Nat.le_trans shallow within)) h built

theorem takeTag_depth {inside : Bool} {tag : Option Tag} {members others : List (String × Json)}
    {tag' : Tag}
    (h : (takeTag inside tag members : Except (Json.Mismatch ε) _) = .ok (tag', others)) :
    depthMembers others ≤ depthMembers members := by
  induction members generalizing tag others with
  | nil =>
    cases tag with
    | none => cases h
    | some tag =>
      cases h
      exact Nat.le_refl _
  | cons m rest ih =>
    obtain ⟨key, v⟩ := m
    rw [depthMembers]
    unfold takeTag at h
    split at h
    · cases tag with
      | some tag => cases h
      | none =>
        obtain ⟨tag, -, h⟩ := bind_eq_ok.1 h
        exact Nat.le_trans (ih h) (Nat.le_max_right _ _)
    · obtain ⟨⟨tag, others⟩, hrest, h⟩ := bind_eq_ok.1 h
      cases h
      rw [depthMembers]
      have := ih hrest
      omega

theorem lookup_getD_within {n : Nat} {parts : List (String × List (Result ε))}
    (h : ∀ e ∈ parts, PartsWithin n e.2) (key : String) :
    PartsWithin n ((parts.lookup key).getD []) := by
  cases hkey : parts.lookup key with
  | none => simp [PartsWithin]
  | some ps =>
    obtain ⟨before, behind, rfl, -⟩ := List.lookup_eq_some_iff.1 hkey
    exact h (key, ps) (by simp)

mutual

/-- By induction on the value: the parts of a collection are read from values inside it. -/
theorem readAt_depth (inside : Bool) : ∀ (v : Json) (s : Shape),
    (readAt inside v : Result ε) = .ok s → s.toJson.depth ≤ v.depth
  | .object members, s, h => by
    rw [readAt] at h
    obtain ⟨⟨tag, others⟩, htag, h⟩ := bind_eq_ok.1 h
    have within : (Json.object others).depth ≤ depthMembers members + 1 :=
      Nat.succ_le_succ (takeTag_depth htag)
    exact readRecord_depth within (lookup_getD_within (memberParts_within members) _) h
  | .array [], s, h => by cases h
  | .array (first :: rest), s, h => by
    rw [readAt] at h
    obtain ⟨tag, htag, h⟩ := bind_eq_ok.1 h
    have within : (Json.array rest).depth ≤ depthItems (first :: rest) + 1 :=
      Nat.succ_le_succ (Nat.le_max_right _ _)
    refine readRecord_depth within ?_ h
    have all := itemParts_within (first :: rest)
    rw [itemParts] at all ⊢
    obtain ⟨-, all⟩ := List.forall_mem_cons.1 all
    rw [List.drop_succ_cons, List.drop_zero]
    cases hparts : (itemParts rest : List (List (Result ε))) with
    | nil => simp [PartsWithin]
    | cons ps more =>
      rw [hparts] at all
      exact all ps List.mem_cons_self
  | .null, s, h => by cases h
  | .boolean _, s, h => by cases h
  | .number _, s, h => by cases h
  | .string _, s, h => by cases h

theorem memberParts_within : ∀ members : List (String × Json),
    ∀ e ∈ (memberParts members : List (String × List (Result ε))),
      PartsWithin (depthMembers members - 1) e.2
  | [] => by simp [memberParts]
  | (key, v) :: rest => by
    rw [memberParts, depthMembers]
    refine List.forall_mem_cons.2 ⟨(parts_within v).mono (by omega), fun e he => ?_⟩
    exact (memberParts_within rest e he).mono (by omega)

theorem itemParts_within : ∀ items : List Json,
    ∀ ps ∈ (itemParts items : List (List (Result ε))), PartsWithin (depthItems items - 1) ps
  | [] => by simp [itemParts]
  | v :: rest => by
    rw [itemParts, depthItems]
    refine List.forall_mem_cons.2 ⟨(parts_within v).mono (by omega), fun ps hps => ?_⟩
    exact (itemParts_within rest ps hps).mono (by omega)

theorem parts_within : ∀ v : Json, PartsWithin (v.depth - 1) (parts v : List (Result ε))
  | .array items => by
    rw [parts]
    exact readEach_within items
  | .object _ => by simp [parts, PartsWithin]
  | .null => by simp [parts, PartsWithin]
  | .boolean _ => by simp [parts, PartsWithin]
  | .number _ => by simp [parts, PartsWithin]
  | .string _ => by simp [parts, PartsWithin]

theorem readEach_within : ∀ items : List Json,
    PartsWithin (depthItems items) (readEach items : List (Result ε))
  | [] => by simp [readEach, PartsWithin]
  | v :: rest => by
    rw [readEach, depthItems]
    refine List.forall_mem_cons.2
      ⟨fun s h => ?_, (readEach_within rest).mono (Nat.le_max_right _ _)⟩
    exact Nat.le_trans (readAt_depth true v s h) (Nat.le_max_left _ _)

end

theorem nests_read : Nests (read : Json.Reader ε Shape) toJson 0 := readAt_depth false

theorem pointsJson_isFinite (points : List Point) : (pointsJson points).IsFinite :=
  Json.isFinite_array Point.toJson_isFinite points

theorem linesJson_isFinite (lines : List (List Point)) : (linesJson lines).IsFinite :=
  Json.isFinite_array pointsJson_isFinite lines

mutual

theorem toJson_isFinite : ∀ s : Shape, s.toJson.IsFinite
  | .point p => ⟨trivial, Point.toJson_isFinite p, trivial⟩
  | .lineString line => ⟨trivial, pointsJson_isFinite line, trivial⟩
  | .polygon rings => ⟨trivial, linesJson_isFinite rings, trivial⟩
  | .multiPoint points => ⟨trivial, pointsJson_isFinite points, trivial⟩
  | .multiLineString lines => ⟨trivial, linesJson_isFinite lines, trivial⟩
  | .multiPolygon polygons => ⟨trivial, Json.isFinite_array linesJson_isFinite polygons, trivial⟩
  | .envelope corners => ⟨trivial, pointsJson_isFinite corners, trivial⟩
  | .circle center _ => ⟨trivial, Point.toJson_isFinite center, trivial, trivial⟩
  | .collection shapes => ⟨trivial, toJsons_isFinite shapes, trivial⟩

theorem toJsons_isFinite : ∀ shapes : List Shape, Json.ItemsFinite (toJsons shapes)
  | [] => trivial
  | s :: rest => ⟨toJson_isFinite s, toJsons_isFinite rest⟩

end

end Shape

end SearchQuery.Geo
