import Mathlib
import SearchQuery.Proofs.Decimal.Magnitude

/-!
# Products with one

A number of double precision is not changed by a factor of one: the product has 52 zeros behind the
mantissa of the number, and just these are shifted out again.
-/

set_option autoImplicit false
namespace SearchQuery.Decimal
open Float.Model (Format UnpackedFloat totalExponent)
open Float.Model.UnpackedFloat

/-- The exponent is the one that the format has for the number. -/
def IsCanonical (m : Nat) (e : Int) : Prop :=
  Format.binary64.targetExponent (totalExponent m e) = e

theorem isCanonical_iff {m : Nat} {e : Int} :
    IsCanonical m e ↔ max ((m.log2 : Int) + 1 + e - 53) (-1074) = e := by
  have bits : Format.binary64.mantissaBits = 53 := rfl
  simp only [IsCanonical, totalExponent, Format.targetExponent, bits, Format.minExponent]
  rfl

theorem shiftRight_zeros (m k : Nat) :
    (⟨m * 2 ^ k, false, false⟩ : ExtendedMantissa) >>> k = ⟨m, false, false⟩ := by
  induction k generalizing m with
  | zero =>
    rw [Nat.pow_zero, Nat.mul_one]
    rfl
  | succ k ih =>
    have inner := ih (m * 2)
    rw [Nat.mul_assoc, Nat.mul_comm 2, ← Nat.pow_succ] at inner
    change ExtendedMantissa.shiftRightOne
      ((⟨m * 2 ^ (k + 1), false, false⟩ : ExtendedMantissa) >>> k) = _
    rw [inner]
    simp [ExtendedMantissa.shiftRightOne]

theorem log2_zeros {m : Nat} (positive : 0 < m) (k : Nat) : (m * 2 ^ k).log2 = m.log2 + k := by
  have low := Nat.log2_self_le (Nat.ne_of_gt positive)
  have high := Nat.lt_log2_self (n := m)
  apply log2_eq
  · rw [Nat.pow_add]
    exact Nat.mul_le_mul_right _ low
  · rw [show m.log2 + k + 1 = m.log2 + 1 + k by omega, Nat.pow_add]
    exact Nat.mul_lt_mul_of_pos_right high (Nat.two_pow_pos k)

theorem shiftToTargetExponent_zeros {m : Nat} {e : Int} (positive : 0 < m)
    (canonical : IsCanonical m e) (k : Nat) :
    shiftToTargetExponent .binary64 (m * 2 ^ k) (e - k) .exact = (⟨m, false, false⟩, e) := by
  have total : totalExponent (m * 2 ^ k) (e - k) = totalExponent m e := by
    simp only [totalExponent, log2_zeros positive]
    omega
  have target : Format.binary64.targetExponent (totalExponent (m * 2 ^ k) (e - k)) = e := by
    rw [total]
    exact canonical
  have shift : (e - (e - k)).toNat = k := by omega
  have back : e - k + k = e := by omega
  rw [shiftToTargetExponent, target, shiftToExponent, shift, back]
  exact congrArg (·, e) (shiftRight_zeros m k)

theorem roundWithAccuracy_zeros {m : Nat} {e : Int} (positive : 0 < m)
    (canonical : IsCanonical m e) (k : Nat) (s : Sign) :
    roundWithAccuracy .binary64 s (m * 2 ^ k) (e - k) .exact = .finite s m e positive := by
  have second := shiftToTargetExponent_zeros positive canonical 0
  rw [Nat.pow_zero, Nat.mul_one, Nat.cast_zero, Int.sub_zero] at second
  exact roundWithAccuracy_eq (shiftToTargetExponent_zeros positive canonical k) second positive s

theorem unpack_isCanonical {bits : BitVec Format.binary64.numBits} {s : Sign} {m : Nat} {e : Int}
    {positive : 0 < m} (h : unpack .binary64 bits = .finite s m e positive) : IsCanonical m e := by
  rw [isCanonical_iff]
  unfold unpack at h
  dsimp only at h
  split at h
  · split at h <;> cases h
  · split at h
    · rename_i subnormal
      split at h
      · cases h
      · cases h
        have small : (unpackMantissa bits).toNat.log2 < 52 :=
          (Nat.log2_lt (Nat.ne_of_gt positive)).2 (BitVec.isLt _)
        rw [subnormal]
        change max (((unpackMantissa bits).toNat.log2 : Int) + 1 + (0 - (1023 + 52) + 1) - 53)
          (-1074) = 0 - (1023 + 52) + 1
        omega
    · rename_i notZero
      have biased : (unpackExponent bits).toNat ≠ 0 := fun zero =>
        notZero (BitVec.eq_of_toNat_eq zero)
      cases h
      have bound : (unpackMantissa bits).toNat < 2 ^ 52 := (unpackMantissa bits).isLt
      have whole : (1#1 ++ unpackMantissa bits).toNat = (unpackMantissa bits).toNat + 2 ^ 52 := by
        rw [BitVec.toNat_append]
        change 2 ^ 52 ||| (unpackMantissa bits).toNat = _
        rw [Nat.or_comm, Nat.or_two_pow_eq_add_of_lt bound]
      have size : (1#1 ++ unpackMantissa bits).toNat.log2 = 52 :=
        log2_eq (by omega) (by omega)
      rw [size]
      change max ((52 : Int) + 1 + (((unpackExponent bits).toNat : Int) - (1023 + 52)) - 53)
        (-1074) = ((unpackExponent bits).toNat : Int) - (1023 + 52)
      omega

theorem sign_mul_positive (s : Sign) : s * .positive = s := by cases s <;> rfl

/-- A number in any of the four forms is the product of itself with one. -/
theorem unpack_mul_one {bits : BitVec Format.binary64.numBits} {one : 0 < 2 ^ 52} :
    mul .binary64 (unpack .binary64 bits) (.finite .positive (2 ^ 52) (-52) one) =
      unpack .binary64 bits := by
  cases h : unpack .binary64 bits with
  | notANumber => rfl
  | infinity s => exact congrArg UnpackedFloat.infinity (sign_mul_positive s)
  | zero s => exact congrArg UnpackedFloat.zero (sign_mul_positive s)
  | finite s m e positive =>
    rw [Json.mul_finite, sign_mul_positive]
    exact roundWithAccuracy_zeros positive (unpack_isCanonical h) 52 s

theorem pack_unpack_model (f : Float.Model) : Float.Model.pack f.unpack = f := by
  obtain ⟨bits, valid⟩ := f
  have same : pack .binary64 (unpack .binary64 bits.toBitVec) = bits.toBitVec :=
    pack_unpack_of_valid valid
  simp only [Float.Model.pack, Float.Model.unpack, same]

theorem mul_one_eq (x : Float) : x * 1.0 = x := by
  have one : (1.0 : Float).toModel.unpack = .finite .positive (2 ^ 52) (-52) (by decide) := by
    with_unfolding_all rfl
  have product : x.toModel * (1.0 : Float).toModel = x.toModel := by
    change Float.Model.pack (mul .binary64 x.toModel.unpack (1.0 : Float).toModel.unpack) = _
    rw [one]
    exact (congrArg Float.Model.pack unpack_mul_one).trans (pack_unpack_model x.toModel)
  exact congrArg Float.ofModel product

end SearchQuery.Decimal
