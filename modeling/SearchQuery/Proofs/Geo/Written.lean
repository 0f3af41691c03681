import SearchQuery.Geo.Shape
import SearchQuery.Proofs.Json.Readers

/-!
# Written points and shapes

A point or a shape with finite coordinates is read back from what is written for it, and any other
is not read at all.  Shapes have finite coordinates whenever they are read from a finite value; a
point may also be read from a text, which can name what is not a number.
-/

set_option autoImplicit false
namespace SearchQuery.Geo
open Json (Reader Restores Yields)

variable {ε : Type}

namespace Point

def IsFinite (p : Point) : Prop := p.lon.isFinite = true ∧ p.lat.isFinite = true

theorem normalize_toJson (p : Point) :
    p.toJson.normalize = .array [Json.ofFloat p.lon, Json.ofFloat p.lat] := by
  rw [toJson, Json.normalize]
  simp only [Json.normalizeItems, Json.normalize_ofFloat]

theorem number?_ofFloat (x : Float) :
    number? (Json.ofFloat x) = if x.isFinite then some x else none := by
  unfold Json.ofFloat
  split <;> rfl

theorem restores_read (refuse : String → ε) : Restores (read refuse) toJson IsFinite := by
  intro p q
  rw [normalize_toJson, read, number?_ofFloat, number?_ofFloat, IsFinite]
  by_cases lon : p.lon.isFinite = true
  · by_cases lat : p.lat.isFinite = true
    · rw [if_pos lon, if_pos lat]
      change Except.ok p = Except.ok q ↔ _
      simp [lon, lat, eq_comm]
    · simp [lat]
  · simp [lon]

theorem readPair_eq_ok {v : Json} {p : Point} :
    (readPair : Reader ε Point) v = .ok p ↔
      ∃ x y, v = .array [x, y] ∧ (Json.real x : Except (Json.Mismatch ε) Float) = .ok p.lon ∧
        (Json.real y : Except (Json.Mismatch ε) Float) = .ok p.lat := by
  constructor
  · intro h
    cases v with
    | array items =>
      obtain ⟨coordinates, hread, h⟩ := bind_eq_ok.1 h
      match items with
      | [] =>
        cases hread
        cases h
      | [x] =>
        obtain ⟨lon, hlon, hread⟩ := bind_eq_ok.1 hread
        cases hread
        cases h
      | [x, y] =>
        obtain ⟨lon, hlon, hread⟩ := bind_eq_ok.1 hread
        obtain ⟨rest, hrest, hread⟩ := bind_eq_ok.1 hread
        obtain ⟨lat, hlat, hrest⟩ := bind_eq_ok.1 hrest
        cases hrest
        cases hread
        cases h
        exact ⟨x, y, rfl, hlon, hlat⟩
      | x :: y :: z :: rest =>
        obtain ⟨lon, hlon, hread⟩ := bind_eq_ok.1 hread
        obtain ⟨rest, hrest, hread⟩ := bind_eq_ok.1 hread
        obtain ⟨lat, hlat, hrest⟩ := bind_eq_ok.1 hrest
        cases hrest
        cases hread
        cases h
    | _ => cases h
  · rintro ⟨x, y, rfl, hlon, hlat⟩
    simp only [readPair, List.take, Json.readEach, hlon, hlat]
    rfl

theorem restores_readPair : Restores (readPair : Reader ε Point) toJson IsFinite := by
  intro p q
  have lon := Json.restores_real (ε := ε) p.lon q.lon
  have lat := Json.restores_real (ε := ε) p.lat q.lat
  rw [Json.normalize_ofFloat] at lon lat
  rw [readPair_eq_ok, normalize_toJson]
  constructor
  · rintro ⟨x, y, hxy, hlon, hlat⟩
    cases hxy
    obtain ⟨finiteLon, sameLon⟩ := lon.1 hlon
    obtain ⟨finiteLat, sameLat⟩ := lat.1 hlat
    cases q
    cases sameLon
    cases sameLat
    exact ⟨⟨finiteLon, finiteLat⟩, rfl⟩
  · rintro ⟨⟨finiteLon, finiteLat⟩, rfl⟩
    exact ⟨_, _, rfl, lon.2 ⟨finiteLon, rfl⟩, lat.2 ⟨finiteLat, rfl⟩⟩

theorem yields_readPair : Yields (readPair : Reader ε Point) IsFinite := by
  intro v p finite h
  obtain ⟨x, y, rfl, hlon, hlat⟩ := readPair_eq_ok.1 h
  exact ⟨Json.yields_real x p.lon finite.1 hlon, Json.yields_real y p.lat finite.2.1 hlat⟩

end Point

namespace Shape

mutual

def IsFinite : Shape → Prop
  | .point p => p.IsFinite
  | .lineString line => ∀ p ∈ line, p.IsFinite
  | .polygon rings => ∀ ring ∈ rings, ∀ p ∈ ring, p.IsFinite
  | .multiPoint points => ∀ p ∈ points, p.IsFinite
  | .multiLineString lines => ∀ line ∈ lines, ∀ p ∈ line, p.IsFinite
  | .multiPolygon polygons => ∀ rings ∈ polygons, ∀ ring ∈ rings, ∀ p ∈ ring, p.IsFinite
  | .envelope corners => ∀ p ∈ corners, p.IsFinite
  | .circle center _ => center.IsFinite
  | .collection shapes => AllFinite shapes

def AllFinite : List Shape → Prop
  | [] => True
  | s :: rest => s.IsFinite ∧ AllFinite rest

end

/-- In sorted order the type comes last. -/
theorem normalize_tagged (type : String) {key : String} (before : key < "type") (v : Json) :
    (tagged type [(key, v)]).normalize = .object [(key, v.normalize), ("type", .string type)] := by
  rw [tagged, Json.normalize]
  simp only [Json.normalizeMembers, Json.normalize, Json.sortMembers, List.foldl, Json.putMember]
  rw [if_pos before]

section Tagged
variable {inside : Bool} {type : String} {tag : Tag} (named : Tag.named.lookup type = some tag)
include named

theorem takeTag_last {key : String} (other : key ≠ "type") (v : Json) :
    (takeTag inside none [(key, v), ("type", .string type)] :
      Except (Json.Mismatch ε) (Tag × List (String × Json))) = .ok (tag, [(key, v)]) := by
  simp only [takeTag, if_neg other, readTag, named]
  rfl

theorem readAt_tagged {key : String} (other : key ≠ "type") (v : Json) :
    (readAt inside (.object [(key, v), ("type", .string type)]) : Result ε) =
      (record (((memberParts [(key, v), ("type", .string type)]).lookup "geometries").getD [])
        tag).readMembers [(key, v)] := by
  rw [readAt, readObject, takeTag_last named other]
  rfl

theorem readAt_coordinates {α : Type} {make : α → Shape} {read : Reader ε α} {write : α → Json}
    {p : α → Prop} (restores : Restores read write p)
    (hrecord : ∀ parts, record parts tag = make <$> Json.Record.required "coordinates" read)
    {x : α} {s : Shape} :
    (readAt inside (tagged type [("coordinates", write x)]).normalize : Result ε) = .ok s ↔
      p x ∧ s = make x := by
  rw [normalize_tagged type (by decide), readAt_tagged named (by decide), hrecord,
    Json.Record.readMembers_eq_ok (Json.Record.isSound_map _ (Json.Record.isSound_required _ _))
      (List.pairwise_singleton _ _),
    Json.Record.map_build]
  simp only [Json.Record.required_build]
  constructor
  · rintro ⟨y, ⟨v, hv, hy⟩, rfl⟩
    cases hv
    obtain ⟨hx, rfl⟩ := (restores x y).1 hy
    exact ⟨hx, rfl⟩
  · rintro ⟨hx, rfl⟩
    exact ⟨x, ⟨_, rfl, (restores x x).2 ⟨hx, rfl⟩⟩, rfl⟩

end Tagged

theorem restores_points : Restores (Json.listOf Point.readPair : Reader ε (List Point)) pointsJson
    fun points => ∀ p ∈ points, p.IsFinite :=
  Point.restores_readPair.listOf

theorem restores_lines : Restores (Json.listOf (Json.listOf Point.readPair) :
    Reader ε (List (List Point))) linesJson fun lines => ∀ line ∈ lines, ∀ p ∈ line, p.IsFinite :=
  restores_points.listOf

theorem isSound_circle (parts : List (Result ε)) : (record parts .circle).IsSound :=
  Json.Record.isSound_seq (Json.Record.isSound_map _ (Json.Record.isSound_required _ _))
    (Json.Record.isSound_required _ _)

theorem readAt_circle {inside : Bool} {center : Point} {radius : String} {s : Shape} :
    (readAt inside (circle center radius).toJson.normalize : Result ε) = .ok s ↔
      center.IsFinite ∧ s = circle center radius := by
  let members := [("coordinates", center.toJson.normalize), ("radius", .string radius)]
  have above : ∀ m ∈ [("radius", Json.string radius)], "coordinates" < m.1 := by
    intro m hm
    rw [List.mem_singleton.1 hm]
    change "coordinates" < "radius"
    decide
  have sorted : Json.Sorted members := List.pairwise_cons.2 ⟨above, List.pairwise_singleton _ _⟩
  have written : (circle center radius).toJson.normalize =
      .object (members ++ [("type", .string "circle")]) := by
    rw [toJson, tagged, Json.normalize]
    simp only [Json.normalizeMembers, Json.normalize, Json.sortMembers, List.foldl, Json.putMember]
    rfl
  have taken : (takeTag inside none (members ++ [("type", .string "circle")]) :
      Except (Json.Mismatch ε) (Tag × List (String × Json))) = .ok (.circle, members) := rfl
  rw [written, readAt, readObject, taken]
  change (record _ .circle).readMembers members = .ok s ↔ _
  rw [Json.Record.readMembers_eq_ok (isSound_circle _) sorted, record, Json.Record.seq_build]
  simp only [Json.Record.map_build, Json.Record.required_build]
  constructor
  · rintro ⟨make, r, ⟨c, ⟨v, hv, hc⟩, rfl⟩, ⟨w, hw, hr⟩, rfl⟩
    cases hv
    cases hw
    cases hr
    obtain ⟨finite, rfl⟩ := (Point.restores_readPair center c).1 hc
    exact ⟨finite, rfl⟩
  · rintro ⟨finite, rfl⟩
    exact ⟨circle center, radius,
      ⟨center, ⟨_, rfl, (Point.restores_readPair center center).2 ⟨finite, rfl⟩⟩, rfl⟩,
      ⟨.string radius, rfl, rfl⟩, rfl⟩

mutual

theorem readAt_toJson (inside : Bool) : ∀ s s' : Shape,
    (readAt inside s.toJson.normalize : Result ε) = .ok s' ↔ s.IsFinite ∧ s' = s
  | .point _, _ => readAt_coordinates rfl Point.restores_readPair fun _ => rfl
  | .lineString _, _ => readAt_coordinates rfl restores_points fun _ => rfl
  | .polygon _, _ => readAt_coordinates rfl restores_lines fun _ => rfl
  | .multiPoint _, _ => readAt_coordinates rfl restores_points fun _ => rfl
  | .multiLineString _, _ => readAt_coordinates rfl restores_lines fun _ => rfl
  | .multiPolygon _, _ => readAt_coordinates rfl restores_lines.listOf fun _ => rfl
  | .envelope _, _ => readAt_coordinates rfl restores_points fun _ => rfl
  | .circle _ _, _ => readAt_circle
  | .collection shapes, s' => by
    rw [toJson, normalize_tagged _ (by decide), readAt_tagged rfl (by decide), record,
      Json.Record.readMembers_eq_ok (Json.Record.isSound_map _ (Json.Record.isSound_required _ _))
        (List.pairwise_singleton _ _),
      Json.Record.map_build]
    simp only [Json.Record.required_build]
    have parts := firstFault_toJsons shapes
    constructor
    · rintro ⟨shapes', ⟨v, hv, hread⟩, rfl⟩
      cases hv
      obtain ⟨finite, rfl⟩ := (parts shapes').1 hread
      exact ⟨finite, rfl⟩
    · rintro ⟨finite, rfl⟩
      exact ⟨shapes, ⟨_, rfl, (parts shapes).2 ⟨finite, rfl⟩⟩, rfl⟩

theorem firstFault_toJsons : ∀ shapes shapes' : List Shape,
    (firstFault (readEach (Json.normalizeItems (toJsons shapes))) :
      Except (Json.Mismatch ε) (List Shape)) = .ok shapes' ↔ AllFinite shapes ∧ shapes' = shapes
  | [], shapes' => by
    change Except.ok [] = Except.ok shapes' ↔ _
    simp [AllFinite, eq_comm]
  | s :: rest, shapes' => by
    rw [toJsons, Json.normalizeItems, readEach, firstFault]
    simp only [bind_eq_ok, pure_eq_ok, readAt_toJson true s, firstFault_toJsons rest]
    constructor
    · rintro ⟨_, ⟨first, rfl⟩, _, ⟨others, rfl⟩, rfl⟩
      exact ⟨⟨first, others⟩, rfl⟩
    · rintro ⟨⟨first, others⟩, rfl⟩
      exact ⟨s, ⟨first, rfl⟩, rest, ⟨others, rfl⟩, rfl⟩

end

theorem restores_read : Restores (read : Reader ε Shape) toJson IsFinite := readAt_toJson false

def PartsFinite (parts : List (Result ε)) : Prop := ∀ r ∈ parts, ∀ s, r = .ok s → s.IsFinite

theorem firstFault_finite {parts : List (Result ε)} (h : PartsFinite parts) {shapes : List Shape}
    (hread : firstFault parts = .ok shapes) : AllFinite shapes := by
  induction parts generalizing shapes with
  | nil =>
    cases hread
    trivial
  | cons r rest ih =>
    rw [firstFault] at hread
    simp only [bind_eq_ok, pure_eq_ok] at hread
    obtain ⟨s, hs, more, hmore, rfl⟩ := hread
    obtain ⟨first, others⟩ := List.forall_mem_cons.1 h
    exact ⟨first s hs, ih others hmore⟩

theorem yields_readParts {parts : List (Result ε)} (h : PartsFinite parts) :
    Yields (readParts parts) AllFinite := by
  intro v shapes finite hread
  cases v with
  | array items => exact firstFault_finite h hread
  | _ => cases hread

theorem record_finite {tag : Tag} {parts : List (Result ε)} (h : PartsFinite parts)
    {members : List (String × Json)} (finite : Json.MembersFinite members) {s : Shape}
    (built : (record parts tag).build members = .ok s) : s.IsFinite := by
  have points : Yields (Json.listOf Point.readPair : Reader ε (List Point)) _ :=
    Point.yields_readPair.listOf
  cases tag with
  | point =>
    obtain ⟨x, hx, rfl⟩ := Json.Record.map_build.1 built
    exact Json.required_yields Point.yields_readPair finite hx
  | lineString | multiPoint | envelope =>
    obtain ⟨x, hx, rfl⟩ := Json.Record.map_build.1 built
    exact Json.required_yields points finite hx
  | polygon | multiLineString =>
    obtain ⟨x, hx, rfl⟩ := Json.Record.map_build.1 built
    exact Json.required_yields points.listOf finite hx
  | multiPolygon =>
    obtain ⟨x, hx, rfl⟩ := Json.Record.map_build.1 built
    exact Json.required_yields points.listOf.listOf finite hx
  | circle =>
    obtain ⟨make, radius, hmake, -, rfl⟩ := Json.Record.seq_build.1 built
    obtain ⟨center, hcenter, rfl⟩ := Json.Record.map_build.1 hmake
    exact Json.required_yields Point.yields_readPair finite hcenter
  | collection =>
    obtain ⟨x, hx, rfl⟩ := Json.Record.map_build.1 built
    exact Json.required_yields (yields_readParts h) finite hx

theorem readRecord_finite {tag : Tag} {parts : List (Result ε)} (h : PartsFinite parts) {v : Json}
    (finite : v.IsFinite) {s : Shape} (hread : readRecord tag parts v = .ok s) : s.IsFinite := by
  obtain ⟨members, finite, built⟩ := Json.Record.build_of_read finite hread
  exact record_finite h finite built

theorem takeTag_finite {inside : Bool} {tag : Option Tag} {members others : List (String × Json)}
    {tag' : Tag} (finite : Json.MembersFinite members)
    (h : (takeTag inside tag members : Except (Json.Mismatch ε) _) = .ok (tag', others)) :
    Json.MembersFinite others := by
  induction members generalizing tag others with
  | nil =>
    cases tag with
    | none => cases h
    | some tag =>
      cases h
      trivial
  | cons m rest ih =>
    obtain ⟨key, v⟩ := m
    unfold takeTag at h
    split at h
    · cases tag with
      | some tag => cases h
      | none =>
        obtain ⟨tag, -, h⟩ := bind_eq_ok.1 h
        exact ih finite.2 h
    · obtain ⟨⟨tag, others⟩, hrest, h⟩ := bind_eq_ok.1 h
      cases h
      exact ⟨finite.1, ih finite.2 hrest⟩

theorem lookup_getD_finite {parts : List (String × List (Result ε))}
    (h : ∀ e ∈ parts, PartsFinite e.2) (key : String) :
    PartsFinite ((parts.lookup key).getD []) := by
  cases hkey : parts.lookup key with
  | none => simp [PartsFinite]
  | some ps =>
    obtain ⟨before, behind, rfl, -⟩ := List.lookup_eq_some_iff.1 hkey
    exact h (key, ps) (by simp)

mutual

theorem readAt_finite (inside : Bool) : ∀ (v : Json) (s : Shape), v.IsFinite →
    (readAt inside v : Result ε) = .ok s → s.IsFinite
  | .object members, s, finite, h => by
    rw [readAt] at h
    obtain ⟨⟨tag, others⟩, htag, h⟩ := bind_eq_ok.1 h
    have others : (Json.object others).IsFinite := takeTag_finite finite htag
    exact readRecord_finite (lookup_getD_finite (memberParts_finite members finite) _) others h
  | .array [], s, finite, h => by cases h
  | .array (first :: rest), s, finite, h => by
    rw [readAt] at h
    obtain ⟨tag, htag, h⟩ := bind_eq_ok.1 h
    have others : (Json.array rest).IsFinite := finite.2
    refine readRecord_finite ?_ others h
    have all := itemParts_finite (first :: rest) finite
    rw [itemParts] at all
    rw [itemParts]
    obtain ⟨-, all⟩ := List.forall_mem_cons.1 all
    rw [List.drop_succ_cons, List.drop_zero]
    cases hparts : (itemParts rest : List (List (Result ε))) with
    | nil => simp [PartsFinite]
    | cons ps more =>
      rw [hparts] at all
      exact all ps List.mem_cons_self
  | .null, s, finite, h => by cases h
  | .boolean _, s, finite, h => by cases h
  | .number _, s, finite, h => by cases h
  | .string _, s, finite, h => by cases h

theorem memberParts_finite : ∀ members : List (String × Json), Json.MembersFinite members →
    ∀ e ∈ (memberParts members : List (String × List (Result ε))), PartsFinite e.2
  | [], _ => by simp [memberParts]
  | (key, v) :: rest, finite => by
    rw [memberParts]
    exact List.forall_mem_cons.2 ⟨parts_finite v finite.1, memberParts_finite rest finite.2⟩

theorem itemParts_finite : ∀ items : List Json, Json.ItemsFinite items →
    ∀ ps ∈ (itemParts items : List (List (Result ε))), PartsFinite ps
  | [], _ => by simp [itemParts]
  | v :: rest, finite => by
    rw [itemParts]
    exact List.forall_mem_cons.2 ⟨parts_finite v finite.1, itemParts_finite rest finite.2⟩

theorem parts_finite : ∀ v : Json, v.IsFinite → PartsFinite (parts v : List (Result ε))
  | .array items, finite => by
    rw [parts]
    exact readEach_finite items finite
  | .object _, _ => by simp [parts, PartsFinite]
  | .null, _ => by simp [parts, PartsFinite]
  | .boolean _, _ => by simp [parts, PartsFinite]
  | .number _, _ => by simp [parts, PartsFinite]
  | .string _, _ => by simp [parts, PartsFinite]

theorem readEach_finite : ∀ items : List Json, Json.ItemsFinite items →
    PartsFinite (readEach items : List (Result ε))
  | [], _ => by simp [readEach, PartsFinite]
  | v :: rest, finite => by
    rw [readEach]
    exact List.forall_mem_cons.2
      ⟨fun s => readAt_finite true v s finite.1, readEach_finite rest finite.2⟩

end

theorem yields_read : Yields (read : Reader ε Shape) IsFinite := readAt_finite false

end Shape

end SearchQuery.Geo
