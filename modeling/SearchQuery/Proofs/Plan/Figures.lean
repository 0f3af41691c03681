import SearchQuery.Proofs.Geo.Soundness
import SearchQuery.Proofs.Plan.Values

/-!
# Figures in plans

Boxes, disks, polygons and shapes in a plan are sound (`Query.compile_figures`), for each has passed
its check on the way from the query that asks for it.
-/

set_option autoImplicit false
namespace SearchQuery

theorem checkDisk_eq_ok {center : Geo.Point} {distance : String} {meters : Float} :
    checkDisk center distance = .ok meters ↔
      center.OnGlobe ∧ Geo.Distance.meters? distance = some meters := by
  rw [checkDisk, bind_unit_eq_ok, checkGeo, mapError_eq_ok, Geo.Point.check_eq_ok, checkGeo,
    mapError_eq_ok, Geo.checkDistance_eq_ok]

/-- The figure of a condition is sound, if it has one. -/
def Condition.HasSoundFigure : Condition → Prop
  | .geoBox _ topLeft bottomRight =>
    topLeft.OnGlobe ∧ bottomRight.OnGlobe ∧ ¬ topLeft.lat < bottomRight.lat
  | .geoDistance _ center meters =>
    center.OnGlobe ∧ ∃ distance, Geo.Distance.meters? distance = some meters
  | .geoPolygon _ points => 3 ≤ points.length ∧ ∀ p ∈ points, p.OnGlobe
  | .geoShape _ shape _ => shape.IsSound
  | _ => True

theorem Criterion.Denotes.hasSoundFigure {t : Target} {field : String} {c : Criterion}
    {d : Condition} (h : c.Denotes t field d) : d.HasSoundFigure := by
  cases h with
  | box checked => exact Geo.checkBox_eq_ok.1 checked
  | disk read =>
    obtain ⟨onGlobe, size⟩ := checkDisk_eq_ok.1 read
    exact ⟨onGlobe, _, size⟩
  | polygon checked => exact Geo.checkPolygonPoints_eq_ok.1 checked
  | shape checked => exact Geo.Shape.isSound_of_check _ checked
  | numbers | dates | network => trivial

theorem Condition.hasSoundFigure_of_untyped {d : Condition} (h : d.typed? = none) :
    d.HasSoundFigure := by
  cases d with
  | geoBox | geoDistance | geoPolygon | geoShape => cases h
  | _ => trivial

namespace Query

/-- Every figure in a plan is sound.  Its points lie on the globe, the top of a box is not below its
bottom, a polygon has three points at least, and shapes are sound within collections too. -/
theorem compile_figures {context : Context} {t : Target} {q : Query} {p : Plan}
    (h : q.compile context t = .ok p) :
    ∀ n d, p.HasNode n → n.condition? = some d → d.HasSoundFigure := by
  intro n d node leaf
  cases typed : d.typed? with
  | none => exact d.hasSoundFigure_of_untyped typed
  | some values =>
    obtain ⟨c, field, boost, -, denotes⟩ := compile_denotes h node leaf typed
    exact denotes.hasSoundFigure

/-- A box over the antimeridian from pole to pole, a disk at a pole, a triangle, and a triangle in a
collection of shapes beside a circle. -/
theorem compile_figures_nested :
    let t : Target := ⟨fun _ => [], Schema.initial.mapping, {}⟩
    let topLeft : Geo.Point := ⟨170, 90⟩
    let bottomRight : Geo.Point := ⟨-170, -90⟩
    let pole : Geo.Point := ⟨180, -90⟩
    let corners : List Geo.Point := [⟨0, 0⟩, ⟨2, 0⟩, ⟨1, 1⟩]
    let triangle : Geo.Shape := .polygon [[⟨0, 0⟩, ⟨2, 0⟩, ⟨1, 1⟩, ⟨0, 0⟩]]
    let shape : Geo.Shape := .collection [.collection [triangle], .circle pole "7 m"]
    let queries : List Query := [.onField (.geoBox topLeft bottomRight) "at" none,
      .onField (.geoDistance pole "7km") "at" none, .onField (.geoPolygon corners) "at" none,
      .onField (.geoShape shape .within) "in" none]
    let box : Plan := .leaf (.geoBox "at" topLeft bottomRight) defaultBoost {}
    let disk : Plan := .leaf (.geoDistance "at" pole 7000) defaultBoost {}
    let polygon : Plan := .leaf (.geoPolygon "at" corners) defaultBoost {}
    let figure : Plan := .leaf (.geoShape "in" shape .within) defaultBoost {}
    let p : Plan := .conjunction [box, disk, polygon, figure] defaultBoost {}
    (conjunction queries none).compile {} t = .ok p ∧
      (p.HasNode box ∧ p.HasNode disk ∧ p.HasNode polygon ∧ p.HasNode figure) ∧
      (topLeft.OnGlobe ∧ bottomRight.OnGlobe ∧ ¬ topLeft.lat < bottomRight.lat) ∧
      (pole.OnGlobe ∧ ∃ distance, Geo.Distance.meters? distance = some 7000) ∧
      (3 ≤ corners.length ∧ ∀ p ∈ corners, p.OnGlobe) ∧
      shape.IsSound := by
  intro t topLeft bottomRight pole corners triangle shape queries box disk polygon figure p
  have upright : Geo.checkBox topLeft bottomRight = .ok () := by
    dsimp only [topLeft, bottomRight]
    with_unfolding_all rfl
  have near : checkDisk pole "7km" = .ok 7000 := by
    refine checkDisk_eq_ok.2 ⟨Geo.Point.check_eq_ok.1 ?_, by decide +kernel⟩
    dsimp only [pole]
    with_unfolding_all rfl
  have flat : Geo.checkPolygonPoints corners = .ok () := by
    dsimp only [corners]
    with_unfolding_all rfl
  have sound : shape.check = .ok () := by
    dsimp only [shape, triangle, pole]
    with_unfolding_all rfl
  have point : t.mapping.Admits "at" .geoPoint := .inr ⟨rfl, rfl⟩
  have area : t.mapping.Admits "in" .geoShape := .inr ⟨rfl, rfl⟩
  have each : lowerEach t (lowerText t) queries = .ok [box, disk, polygon, figure] := by
    refine lowerEach_iff.2 (.cons ?_ (.cons ?_ (.cons ?_ (.cons ?_ .nil)))) <;>
      rw [lowerTree_onField]
    · exact Criterion.Denotes.lower (.box upright) rfl point none
    · exact Criterion.Denotes.lower (.disk near) rfl point none
    · exact Criterion.Denotes.lower (.polygon flat) rfl point none
    · exact Criterion.Denotes.lower (.shape sound) rfl area none
  have compiled : (conjunction queries none).compile {} t = .ok p :=
    compile_eq_ok.2 ⟨rfl, lowerTree_conjunction.2 (.inr ⟨List.cons_ne_nil _ _, _, each, rfl⟩)⟩
  have node (n : Plan) (mem : n ∈ [box, disk, polygon, figure]) : p.HasNode n :=
    .inside mem (.root n)
  have boxed := node box (by simp)
  have reached := node disk (by simp)
  have outlined := node polygon (by simp)
  have shaped := node figure (by simp)
  exact ⟨compiled, ⟨boxed, reached, outlined, shaped⟩, compile_figures compiled box _ boxed rfl,
    compile_figures compiled disk _ reached rfl, compile_figures compiled polygon _ outlined rfl,
    compile_figures compiled figure _ shaped rfl⟩

end Query

end SearchQuery
