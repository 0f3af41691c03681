import SearchQuery.Geo.Shape
import SearchQuery.Proofs.Outcome

/-!
# Sound figures

The checks of figures let only sound ones through.  Points lie on the globe, lines and rings are
long enough, rings are closed, and nothing that has parts is without them.  The shapes of a
collection are sound in turn, however deep they lie.
-/

set_option autoImplicit false
namespace SearchQuery.Geo

/-- The coordinates are finite, and degrees in their ranges. -/
def Point.OnGlobe (p : Point) : Prop :=
  (p.lat.isFinite = true ∧ -90.0 ≤ p.lat ∧ p.lat ≤ 90.0) ∧
    p.lon.isFinite = true ∧ -180.0 ≤ p.lon ∧ p.lon ≤ 180.0

theorem within_eq_true {x least greatest : Float} :
    within x least greatest = true ↔ x.isFinite = true ∧ least ≤ x ∧ x ≤ greatest := by
  simp [within, and_assoc]

theorem Point.check_eq_ok {p : Point} : p.check = .ok () ↔ p.OnGlobe := by
  simp only [check, ite_error_eq_ok, Bool.not_eq_true, Bool.not_eq_false', within_eq_true, and_true,
    OnGlobe]

theorem checkEach_eq_ok {α : Type} {check : α → Except Fault Unit} {IsSound : α → Prop}
    (h : ∀ x, check x = .ok () ↔ IsSound x) (xs : List α) :
    checkEach check xs = .ok () ↔ ∀ x ∈ xs, IsSound x := by
  induction xs with
  | nil => simp [checkEach]
  | cons x rest ih => rw [checkEach, bind_unit_eq_ok, h, ih, List.forall_mem_cons]

theorem checkPoints_eq_ok (points : List Point) :
    checkEach Point.check points = .ok () ↔ ∀ p ∈ points, p.OnGlobe :=
  checkEach_eq_ok (fun _ => Point.check_eq_ok) points

theorem checkBox_eq_ok {topLeft bottomRight : Point} : checkBox topLeft bottomRight = .ok () ↔
    topLeft.OnGlobe ∧ bottomRight.OnGlobe ∧ ¬ topLeft.lat < bottomRight.lat := by
  rw [checkBox, bind_unit_eq_ok, bind_unit_eq_ok, ite_error_eq_ok, Point.check_eq_ok,
    Point.check_eq_ok, pure_eq_ok]
  simp only [and_true]

theorem checkDistance_eq_ok {text : String} {meters : Float} :
    checkDistance text = .ok meters ↔ Distance.meters? text = some meters := by
  unfold checkDistance
  cases Distance.meters? text <;> simp

theorem checkPolygonPoints_eq_ok {points : List Point} :
    checkPolygonPoints points = .ok () ↔ 3 ≤ points.length ∧ ∀ p ∈ points, p.OnGlobe := by
  rw [checkPolygonPoints, ite_error_eq_ok, checkPoints_eq_ok, Nat.not_lt]

namespace Shape

def IsLine (line : List Point) : Prop := 2 ≤ line.length ∧ ∀ p ∈ line, p.OnGlobe

def IsRing (ring : List Point) : Prop :=
  4 ≤ ring.length ∧ (∀ first ∈ ring.head?, ∀ last ∈ ring.getLast?, (first == last) = true) ∧
    ∀ p ∈ ring, p.OnGlobe

def IsPolygon (rings : List (List Point)) : Prop := rings ≠ [] ∧ ∀ ring ∈ rings, IsRing ring

theorem checkLine_eq_ok {line : List Point} : checkLine line = .ok () ↔ IsLine line := by
  rw [checkLine, ite_error_eq_ok, checkPoints_eq_ok, Nat.not_lt, IsLine]

theorem isClosed_eq_true {ring : List Point} : isClosed ring = true ↔
    ∀ first ∈ ring.head?, ∀ last ∈ ring.getLast?, (first == last) = true := by
  unfold isClosed
  cases ring.head? with
  | none => simp
  | some first => cases ring.getLast? <;> simp

theorem checkRing_eq_ok {ring : List Point} : checkRing ring = .ok () ↔ IsRing ring := by
  rw [checkRing, ite_error_eq_ok, ite_error_eq_ok, checkPoints_eq_ok, Nat.not_lt, Bool.not_eq_true,
    Bool.not_eq_false', isClosed_eq_true, IsRing]

theorem checkParts_eq_ok {α : Type} {fault : Fault} {check : α → Except Fault Unit}
    {IsSound : α → Prop} (h : ∀ x, check x = .ok () ↔ IsSound x) {xs : List α} :
    (if xs.isEmpty then .error fault else checkEach check xs) = .ok () ↔
      xs ≠ [] ∧ ∀ x ∈ xs, IsSound x := by
  rw [ite_error_eq_ok, List.isEmpty_iff, checkEach_eq_ok h]

theorem checkPolygon_eq_ok {rings : List (List Point)} :
    checkPolygon rings = .ok () ↔ IsPolygon rings :=
  checkParts_eq_ok fun _ => checkRing_eq_ok

inductive IsSound : Shape → Prop
  | point {center : Point} (h : center.OnGlobe) : IsSound (.point center)
  | lineString {line : List Point} (h : IsLine line) : IsSound (.lineString line)
  | polygon {rings : List (List Point)} (h : IsPolygon rings) : IsSound (.polygon rings)
  | multiPoint {points : List Point} (h : points ≠ [] ∧ ∀ p ∈ points, p.OnGlobe) :
    IsSound (.multiPoint points)
  | multiLineString {lines : List (List Point)} (h : lines ≠ [] ∧ ∀ line ∈ lines, IsLine line) :
    IsSound (.multiLineString lines)
  | multiPolygon {polygons : List (List (List Point))}
      (h : polygons ≠ [] ∧ ∀ rings ∈ polygons, IsPolygon rings) : IsSound (.multiPolygon polygons)
  | envelope {corners : List Point} (h : corners.length = 2 ∧ ∀ p ∈ corners, p.OnGlobe) :
    IsSound (.envelope corners)
  | circle {center : Point} {radius : String} {meters : Float} (h : center.OnGlobe)
      (size : Distance.meters? radius = some meters) : IsSound (.circle center radius)
  | collection {shapes : List Shape} (some : shapes ≠ []) (each : ∀ s ∈ shapes, IsSound s) :
    IsSound (.collection shapes)

mutual

theorem isSound_of_check : ∀ s : Shape, s.check = .ok () → s.IsSound
  | .point _, h => .point (Point.check_eq_ok.1 h)
  | .lineString _, h => .lineString (checkLine_eq_ok.1 h)
  | .polygon _, h => .polygon (checkPolygon_eq_ok.1 h)
  | .multiPoint _, h => .multiPoint ((checkParts_eq_ok fun _ => Point.check_eq_ok).1 h)
  | .multiLineString _, h => .multiLineString ((checkParts_eq_ok fun _ => checkLine_eq_ok).1 h)
  | .multiPolygon _, h => .multiPolygon ((checkParts_eq_ok fun _ => checkPolygon_eq_ok).1 h)
  | .envelope corners, h => by
    obtain ⟨two, each⟩ := ite_error_eq_ok.1 h
    exact .envelope ⟨Decidable.not_not.1 two, (checkPoints_eq_ok corners).1 each⟩
  | .circle center radius, h => by
    rw [check, bind_unit_eq_ok, Point.check_eq_ok, discard_eq_ok] at h
    obtain ⟨onGlobe, meters, size⟩ := h
    exact .circle onGlobe (checkDistance_eq_ok.1 size)
  | .collection shapes, h => by
    obtain ⟨some, each⟩ := ite_error_eq_ok.1 h
    exact .collection (mt List.isEmpty_iff.2 some) (isSound_of_checkShapes shapes each)

theorem isSound_of_checkShapes : ∀ shapes : List Shape, checkShapes shapes = .ok () →
    ∀ s ∈ shapes, s.IsSound
  | [], _ => List.forall_mem_nil _
  | s :: rest, h => by
    obtain ⟨first, others⟩ := bind_unit_eq_ok.1 h
    exact List.forall_mem_cons.2 ⟨isSound_of_check s first, isSound_of_checkShapes rest others⟩

end

end Shape

end SearchQuery.Geo
