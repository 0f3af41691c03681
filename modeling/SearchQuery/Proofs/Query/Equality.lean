import SearchQuery.Proofs.Geo.Written
import SearchQuery.Query.Equality

/-!
# Queries that equal themselves

Numbers are compared as numbers, so equality is reflexive only where all of them are finite or at
least numbers.
-/

set_option autoImplicit false
namespace SearchQuery

open Float.Model (UnpackedFloat) in
theorem float_beq_self {x : Float} (h : x.isFinite = true) : (x == x) = true := by
  change (x.toModel.unpack.compare x.toModel.unpack == some .eq) = true
  have h : x.toModel.unpack.isFinite = true := h
  cases hx : x.toModel.unpack with
  | infinity => rw [hx] at h; cases h
  | notANumber => rw [hx] at h; cases h
  | zero s => rfl
  | finite s m e hm =>
    have same : (compare e e).then (compare m m) = .eq := by simp
    cases s with
    | positive =>
      change (some ((compare e e).then (compare m m)) == some .eq) = true
      rw [same]
      rfl
    | negative =>
      change (some ((compare e e).then (compare m m)).swap == some .eq) = true
      rw [same]
      rfl

/-- Leaving out what is not finite leaves no trace only where all is finite. -/
theorem filter_isFinite_beq {x : Option Float} :
    (x.filter Float.isFinite == x) = true ↔ ∀ a ∈ x, a.isFinite = true := by
  cases x with
  | none => simp
  | some a =>
    by_cases finite : a.isFinite = true
    · simp [Option.filter, finite, float_beq_self finite]
    · simp [Option.filter, finite]

theorem filter_isFinite_eq_self {x : Option Float} (h : ∀ a ∈ x, a.isFinite = true) :
    x.filter Float.isFinite = x := by
  cases x with
  | none => rfl
  | some a => simp [Option.filter, h a rfl]

theorem option_beq_self {x : Option Float} (h : ∀ a ∈ x, a.isFinite = true) : (x == x) = true := by
  have kept := filter_isFinite_beq.2 h
  rwa [filter_isFinite_eq_self h] at kept

theorem list_beq_self {α : Type} [BEq α] {l : List α} (h : ∀ x ∈ l, (x == x) = true) :
    (l == l) = true := by
  induction l with
  | nil => rfl
  | cons x rest ih =>
    obtain ⟨first, others⟩ := List.forall_mem_cons.1 h
    rw [List.cons_beq_cons, first, ih others]
    rfl

namespace Geo

theorem Point.beq_self {p : Point} (h : p.IsFinite) : (p == p) = true := by
  change (p.lon == p.lon && p.lat == p.lat) = true
  rw [float_beq_self h.1, float_beq_self h.2]
  rfl

theorem points_beq_self {points : List Point} (h : ∀ p ∈ points, p.IsFinite) :
    (points == points) = true :=
  list_beq_self fun p hp => Point.beq_self (h p hp)

theorem lines_beq_self {lines : List (List Point)} (h : ∀ line ∈ lines, ∀ p ∈ line, p.IsFinite) :
    (lines == lines) = true :=
  list_beq_self fun line hline => points_beq_self (h line hline)

namespace Shape

mutual

theorem same_self : ∀ s : Shape, s.IsFinite → s.same s = true
  | .point _, h => Point.beq_self h
  | .lineString _, h => points_beq_self h
  | .polygon _, h => lines_beq_self h
  | .multiPoint _, h => points_beq_self h
  | .multiLineString _, h => lines_beq_self h
  | .multiPolygon _, h => list_beq_self fun rings hrings => lines_beq_self (h rings hrings)
  | .envelope _, h => points_beq_self h
  | .circle center radius, h => by
    rw [same, Point.beq_self h, beq_self_eq_true radius]
    rfl
  | .collection shapes, h => sameShapes_self shapes h

theorem sameShapes_self : ∀ shapes : List Shape, AllFinite shapes → sameShapes shapes shapes = true
  | [], _ => rfl
  | s :: rest, h => by
    rw [sameShapes, same_self s h.1, sameShapes_self rest h.2]
    rfl

end

end Shape

end Geo

end SearchQuery
