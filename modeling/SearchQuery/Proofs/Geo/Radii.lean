import SearchQuery.Proofs.Decimal.Products
import SearchQuery.Proofs.Geo.Distances

/-!
# Distances as radii

A number of units is checked before it is multiplied by the length of the unit.  What comes out is
finite and above zero exactly if the product, before it is rounded, is in the range of double
precision (`Geo.Distance.meters_usable`).  Only numbers close to the ends of that range leave it.
-/

set_option autoImplicit false
namespace SearchQuery.Geo.Distance
open Decimal (magnitude overflow underflow)

theorem unit_proper {u : String × Float} (known : u ∈ units) :
    u.2.isFinite = true ∧ 0.0 < u.2 := by
  have each : ∀ u ∈ units, u.2.isFinite = true ∧ 0.0 < u.2 := by decide +kernel
  exact each u known

theorem unitLength_proper {cs numeral : List Char} {unit : Option (String × Float)}
    (h : Splits cs numeral unit) : (unitLength unit).isFinite = true ∧ 0.0 < unitLength unit := by
  cases h with
  | bare =>
    have one : (1.0 : Float).isFinite = true ∧ 0.0 < (1.0 : Float) := by decide +kernel
    exact one
  | measured known => exact unit_proper known

def isModerate (x : Float) : Bool :=
  match x.toModel.unpack with
  | .finite _ m e _ =>
    decide (2 ^ 52 ≤ m) && decide (m < 2 ^ 53) && decide (-62 ≤ e) && decide (e ≤ -42)
  | _ => false

theorem magnitude_of_isModerate {x : Float} (h : isModerate x = true) :
    2 ^ (-10 : ℤ) ≤ magnitude x ∧ magnitude x ≤ 2 ^ (11 : ℤ) := by
  unfold isModerate at h
  split at h
  · rename_i s m e positive unpacked
    have value : magnitude x = m * 2 ^ e := by rw [magnitude, unpacked]
    simp only [Bool.and_eq_true, decide_eq_true_iff] at h
    obtain ⟨⟨⟨low, high⟩, least⟩, greatest⟩ := h
    rw [value]
    have lower := Decimal.zpow_le_of_le (k := 0) (e := e) low
    have upper := Decimal.lt_zpow_of_lt (k := 0) (e := e) high
    constructor
    · refine le_trans (zpow_le_zpow_right₀ (by norm_num) ?_) lower
      omega
    · refine le_trans (le_of_lt upper) (zpow_le_zpow_right₀ (by norm_num) ?_)
      omega
  · cases h

theorem unitLength_moderate {cs numeral : List Char} {unit : Option (String × Float)}
    (h : Splits cs numeral unit) : isModerate (unitLength unit) = true := by
  cases h with
  | bare =>
    have one : isModerate 1.0 = true := by decide +kernel
    exact one
  | @measured _ _ u known =>
    have each : ∀ u ∈ units, isModerate u.2 = true := by decide +kernel
    exact each u known

/-- The length in meters of a number of units, before it is rounded. -/
def exactMeters (x : Float) (unit : Option (String × Float)) : ℚ :=
  magnitude x * magnitude (unitLength unit)

/-- An accepted distance is finite unless its exact length is rounded to infinity, and above zero
unless that is rounded to zero. -/
theorem meters_usable {text : String} {d : Float} (accepted : meters? text = some d) :
    ∃ numeral unit x, Splits (written text) numeral unit ∧ Denotes numeral x ∧
      d = inMeters x unit ∧ (d.isFinite = true ↔ exactMeters x unit < overflow) ∧
      (0.0 < d ↔ underflow < exactMeters x unit) := by
  obtain ⟨x, denotes, rfl⟩ := meters_eq_some.1 accepted
  have splits := splits_longestUnit (isTrimmed_written text)
  have proper := unitLength_proper splits
  have range := Decimal.mul_range denotes.finite denotes.positive proper.1 proper.2
  refine ⟨_, _, x, splits, denotes, rfl, ?_⟩
  rw [inMeters_eq]
  exact range

/-- The least number of double precision, in yards, is rounded up to itself. -/
theorem meters_usable_yards :
    meters? "5e-324yd" = some 5e-324 ∧
      ∃ numeral unit x, Splits (written "5e-324yd") numeral unit ∧ Denotes numeral x ∧
        exactMeters x unit < overflow ∧ underflow < exactMeters x unit := by
  have accepted : meters? "5e-324yd" = some 5e-324 := by decide +kernel
  obtain ⟨numeral, unit, x, splits, denotes, -, finite, positive⟩ := meters_usable accepted
  exact ⟨accepted, numeral, unit, x, splits, denotes, finite.1 (by decide +kernel),
    positive.1 (by decide +kernel)⟩

/-- In kilometers a number that is finite itself may be infinitely many meters, and in millimeters a
number above zero none. -/
theorem meters_unusable :
    meters? "1e308km" = some (1.0 / 0.0) ∧ meters? "1e-323mm" = some 0.0 ∧
      ¬ ∀ text d, meters? text = some d → d.isFinite = true ∧ 0.0 < d := by
  have infinite : meters? "1e308km" = some (1.0 / 0.0) := by decide +kernel
  refine ⟨infinite, by decide +kernel, fun usable => ?_⟩
  exact absurd (usable _ _ infinite).1 (by decide +kernel)

theorem Splits.meters_eq {text : String} {numeral : List Char} {unit : Option (String × Float)}
    {x : Float} (h : Splits (written text) numeral unit) (denotes : Denotes numeral x) :
    meters? text = some (inMeters x unit) := by
  obtain ⟨longest, part⟩ := h.eq_longest (isTrimmed_written text).head denotes.ends
  rw [part] at denotes
  rw [longest]
  exact meters_eq_some.2 ⟨x, denotes, rfl⟩

/-- Numbers from 2^-1000 to 2^1000 are accepted and usable in every unit. -/
theorem exists_meters {text : String} {numeral : List Char} {unit : Option (String × Float)}
    {x : Float} (splits : Splits (written text) numeral unit) (denotes : Denotes numeral x)
    (low : 2 ^ (-1000 : ℤ) ≤ magnitude x) (high : magnitude x ≤ 2 ^ (1000 : ℤ)) :
    ∃ d, meters? text = some d ∧ d.isFinite = true ∧ 0.0 < d := by
  have moderate := magnitude_of_isModerate (unitLength_moderate splits)
  have accepted := splits.meters_eq denotes
  have proper := unitLength_proper splits
  have range := Decimal.mul_range denotes.finite denotes.positive proper.1 proper.2
  rw [inMeters_eq] at accepted
  refine ⟨_, accepted, range.1.2 ?_, range.2.2 ?_⟩
  · calc magnitude x * magnitude (unitLength unit)
        ≤ 2 ^ (1000 : ℤ) * 2 ^ (11 : ℤ) :=
          mul_le_mul high moderate.2 (le_trans (by positivity) moderate.1) (by positivity)
      _ ≤ 2 ^ (53 + 970 : ℤ) := by
          rw [← Decimal.two_zpow_add]
          exact zpow_le_zpow_right₀ (by norm_num) (by norm_num)
      _ < overflow := Decimal.zpow_lt_overflow
  · calc underflow < 2 ^ (-1000 : ℤ) * 2 ^ (-10 : ℤ) := by
          rw [underflow, ← Decimal.two_zpow_add]
          exact zpow_lt_zpow_right₀ (by norm_num) (by norm_num)
      _ ≤ magnitude x * magnitude (unitLength unit) :=
          mul_le_mul low moderate.1 (by positivity) (le_trans (by positivity) low)

end SearchQuery.Geo.Distance
