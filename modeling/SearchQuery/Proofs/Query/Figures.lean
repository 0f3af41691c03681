import SearchQuery.Proofs.Geo.Soundness
import SearchQuery.Query.Validation

/-!
# Figures written in two ways

A box is asked for by its corners or as an envelope, and a disk by its center or as a circle.  The
check of the corners begins with that of the envelope and then compares their latitudes, which no
envelope has to pass: an envelope may be upside down.  Circles and disks are checked alike, with the
same report of what is wrong.
-/

set_option autoImplicit false
namespace SearchQuery

namespace Geo

theorem checkBox_eq (topLeft bottomRight : Point) :
    checkBox topLeft bottomRight = (do
      (Shape.envelope [topLeft, bottomRight]).check
      if topLeft.lat < bottomRight.lat then
        .error (.upsideDown topLeft.lat bottomRight.lat)) := by
  simp only [checkBox, Shape.check, List.length_cons, List.length_nil, ne_eq, not_true, if_false,
    checkEach, bind_assoc]
  rfl

theorem Shape.envelope_check {topLeft bottomRight : Point} :
    (envelope [topLeft, bottomRight]).check = .ok () ↔ topLeft.OnGlobe ∧ bottomRight.OnGlobe := by
  change checkEach Point.check [topLeft, bottomRight] = .ok () ↔ _
  rw [checkPoints_eq_ok]
  simp

end Geo

theorem checkDisk_eq (center : Geo.Point) (radius : String) :
    (checkDisk center radius).map (fun _ => ()) =
      checkGeo (Geo.Shape.circle center radius).check := by
  rw [checkDisk, Geo.Shape.check]
  cases center.check with
  | error fault => rfl
  | ok _ => cases Geo.checkDistance radius <;> rfl

namespace Query

theorem validate_onField (c : Criterion) (field : String) (boost : Option Float) :
    (onField c field boost).validate = .ok () ↔ c.check = .ok () := by
  change c.check.mapError At.here = .ok () ↔ _
  rw [mapError_eq_ok]

/-- A box is valid exactly when its envelope is and its top is not below its bottom; so the two are
judged alike unless both corners lie on the globe and are upside down.  Disks and circles always
are. -/
theorem validate_figures (topLeft bottomRight center : Geo.Point) (radius field : String)
    (boost : Option Float) :
    ((onField (.geoBox topLeft bottomRight) field boost).validate = .ok () ↔
      (Geo.Shape.envelope [topLeft, bottomRight]).check = .ok () ∧
        ¬ topLeft.lat < bottomRight.lat) ∧
    (((Geo.Shape.envelope [topLeft, bottomRight]).check = .ok () ↔
        (onField (.geoBox topLeft bottomRight) field boost).validate = .ok ()) ↔
      ¬ (topLeft.OnGlobe ∧ bottomRight.OnGlobe ∧ topLeft.lat < bottomRight.lat)) ∧
    ((Geo.Shape.circle center radius).check = .ok () ↔
      (onField (.geoDistance center radius) field boost).validate = .ok ()) := by
  have box : (onField (.geoBox topLeft bottomRight) field boost).validate = .ok () ↔
      (Geo.Shape.envelope [topLeft, bottomRight]).check = .ok () ∧
        ¬ topLeft.lat < bottomRight.lat := by
    rw [validate_onField, Criterion.check, checkGeo, mapError_eq_ok, Geo.checkBox_eq,
      bind_unit_eq_ok, ite_error_eq_ok]
    simp only [pure_eq_ok, and_true]
  refine ⟨box, ?_, ?_⟩
  · rw [box, Geo.Shape.envelope_check]
    grind
  · rw [validate_onField, Criterion.check, checkDisk_eq, checkGeo, mapError_eq_ok]

/-- An envelope whose top is below its bottom is valid, and the box of its corners is refused. -/
theorem validate_figures_upside_down :
    let topLeft : Geo.Point := ⟨0, -10⟩
    let bottomRight : Geo.Point := ⟨10, 10⟩
    (Geo.Shape.envelope [topLeft, bottomRight]).check = .ok () ∧
      (onField (.geoBox topLeft bottomRight) "at" none).validate =
        .error (.here (.geo (.upsideDown topLeft.lat bottomRight.lat))) := by
  intro topLeft bottomRight
  have envelope : (Geo.Shape.envelope [topLeft, bottomRight]).check = .ok () := by
    dsimp only [topLeft, bottomRight]
    with_unfolding_all rfl
  have below : topLeft.lat < bottomRight.lat := by decide
  refine ⟨envelope, ?_⟩
  change (checkGeo (Geo.checkBox topLeft bottomRight)).mapError At.here = _
  rw [Geo.checkBox_eq, envelope, ok_bind, if_pos below]
  rfl

end Query

end SearchQuery
