import Mathlib.Algebra.Group.Nat.Defs
import SearchQuery.Proofs.Json.Members

/-!
# Numbers of double precision

A whole number of at most 64 bits is far from the greatest number of double precision, so rounding
never takes it to infinity.  The bounds on exponents are coarse on purpose.
-/

set_option autoImplicit false
namespace SearchQuery.Json
open Float.Model (Format UnpackedFloat totalExponent)
open Float.Model.UnpackedFloat

theorem shiftRight_mantissa_le (em : ExtendedMantissa) (n : Nat) :
    (em >>> n).mantissa ≤ em.mantissa := by
  change (n.repeat ExtendedMantissa.shiftRightOne em).mantissa ≤ em.mantissa
  induction n with
  | zero => exact Nat.le_refl _
  | succ n ih =>
    rw [Nat.repeat]
    exact Nat.le_trans (Nat.div_le_self _ 2) ih

theorem roundedMantissa_le (em : ExtendedMantissa) : em.roundedMantissa ≤ em.mantissa + 1 := by
  obtain ⟨m, roundBit, stickyBit⟩ := em
  have parity := Nat.mod_lt m (show 0 < 2 by decide)
  cases roundBit <;> cases stickyBit <;>
    simp only [ExtendedMantissa.roundedMantissa, ExtendedMantissa.accuracy,
      UnpackedFloat.Accuracy.roundToNearestEven] <;> omega

theorem shiftToTargetExponent_le {m : Nat} {e k : Int} (hm : m < 2 ^ 129) (he : e ≤ k)
    (hk : 0 ≤ k) :
    (shiftToTargetExponent .binary64 m e .exact).1.mantissa ≤ m ∧
      (shiftToTargetExponent .binary64 m e .exact).2 ≤ k + 76 := by
  have digits : m.log2 < 129 := by
    by_cases h : m = 0
    · rw [h]
      decide
    · exact (Nat.log2_lt h).2 hm
  refine ⟨shiftRight_mantissa_le _ _, ?_⟩
  have bits : Format.binary64.mantissaBits = 53 := rfl
  simp only [shiftToTargetExponent, shiftToExponent, totalExponent, Format.targetExponent, bits,
    Format.minExponent]
  omega

/-- A number that is zero or has an exponent of at most `k`. -/
def IsSmall (k : Int) : UnpackedFloat → Prop
  | .zero _ => True
  | .finite _ _ e _ => e ≤ k
  | _ => False

theorem roundWithAccuracy_isSmall {m : Nat} {e k : Int} (hm : m < 2 ^ 128) (he : e ≤ k)
    (hk : 0 ≤ k) (sign : Sign) :
    IsSmall (k + 152) (roundWithAccuracy .binary64 sign m e .exact) := by
  have first := shiftToTargetExponent_le (Nat.lt_trans hm (by decide)) he hk
  unfold roundWithAccuracy
  cases shifted : shiftToTargetExponent .binary64 m e .exact with
  | mk em e₁ =>
    rw [shifted] at first
    dsimp only at first
    have small : em.roundedMantissa < 2 ^ 129 := by
      have := roundedMantissa_le em
      have := first.1
      omega
    have second := shiftToTargetExponent_le small first.2 (by omega)
    dsimp only
    by_cases zero : (shiftToTargetExponent .binary64 em.roundedMantissa e₁ .exact).1.mantissa = 0
    · rw [dif_pos zero]
      trivial
    · rw [dif_neg zero]
      change _ ≤ k + 152
      omega

theorem unpackExponent_pack {f : UnpackedFloat} {k : Int} (h : IsSmall k f) (h₀ : 0 ≤ k)
    (h₁ : k ≤ 971) : ((unpackExponent (pack .binary64 f)).toNat : Int) ≤ k + 1075 := by
  cases f with
  | infinity => exact h.elim
  | notANumber => exact h.elim
  | zero sign =>
    change ((unpackExponent (packedZero .binary64 sign)).toNat : Int) ≤ _
    rw [packedZero, unpackExponent_packComponents]
    change (0 : Int) ≤ _
    omega
  | finite sign m e hm =>
    have he : e ≤ k := h
    let biased := (e + 1023 + 52).toNat
    have packed : pack .binary64 (.finite sign m e hm) =
        if 2048 ≤ biased + 1 then packedInfinity .binary64 sign
        else if m.log2 + 1 = 53 then
          packComponents .binary64 sign (BitVec.ofNat _ biased) (BitVec.ofNat _ m)
        else packComponents .binary64 sign 0#_ (BitVec.ofNat _ m) := rfl
    rw [packed, if_neg (by omega)]
    split
    · rw [unpackExponent_packComponents, BitVec.toNat_ofNat]
      change ((e + 1023 + 52).toNat % 2048 : Nat) ≤ k + 1075
      omega
    · rw [unpackExponent_packComponents]
      change (0 : Int) ≤ _
      omega

/-- The mantissa of a number that has been unpacked has 53 bits at most. -/
def Fits (k : Int) : UnpackedFloat → Prop
  | .zero _ => True
  | .finite _ m e _ => m < 2 ^ 53 ∧ e ≤ k
  | _ => False

theorem Fits.isFinite {k : Int} {f : UnpackedFloat} (h : Fits k f) : f.isFinite = true := by
  cases f with
  | infinity => exact h.elim
  | notANumber => exact h.elim
  | zero => rfl
  | finite => rfl

theorem unpack_fits {bits : BitVec Format.binary64.numBits} {k : Int}
    (h : ((unpackExponent bits).toNat : Int) ≤ k + 1075) (h₀ : 0 ≤ k) (h₁ : k ≤ 971) :
    Fits k (unpack .binary64 bits) := by
  have exponent : unpackExponent bits ≠ -1#_ := by
    intro full
    rw [full] at h
    change (2047 : Int) ≤ _ at h
    omega
  unfold unpack
  dsimp only
  rw [if_neg exponent]
  by_cases subnormal : unpackExponent bits = 0#_
  · rw [if_pos subnormal]
    by_cases zero : unpackMantissa bits = 0#_
    · rw [dif_pos zero]
      trivial
    · rw [dif_neg zero]
      refine ⟨Nat.lt_trans (BitVec.isLt _) (by decide), ?_⟩
      rw [subnormal]
      change (0 : Int) - (1023 + 52) + 1 ≤ k
      omega
  · rw [if_neg subnormal]
    refine ⟨BitVec.isLt _, ?_⟩
    change ((unpackExponent bits).toNat : Int) - (1023 + 52) ≤ k
    omega

theorem unpack_pack_fits {f : UnpackedFloat} {k : Int} (h : IsSmall k f) (h₀ : 0 ≤ k)
    (h₁ : k ≤ 971) : Fits k (unpack .binary64 (pack .binary64 f)) :=
  unpack_fits (unpackExponent_pack h h₀ h₁) h₀ h₁

theorem mul_finite {s s' : Sign} {m m' : Nat} {e e' : Int} {hm : 0 < m} {hm' : 0 < m'} :
    mul .binary64 (.finite s m e hm) (.finite s' m' e' hm') =
      roundWithAccuracy .binary64 (s * s') (m * m') (e + e') .exact := rfl

theorem mul_isSmall {f g : UnpackedFloat} {j k : Int} (hf : Fits j f) (hg : Fits k g)
    (h : 0 ≤ j + k) : IsSmall (j + k + 152) (mul .binary64 f g) := by
  cases f with
  | infinity => exact hf.elim
  | notANumber => exact hf.elim
  | zero s => cases g with
    | infinity => exact hg.elim
    | notANumber => exact hg.elim
    | zero => trivial
    | finite => trivial
  | finite s m e hm => cases g with
    | infinity => exact hg.elim
    | notANumber => exact hg.elim
    | zero => trivial
    | finite s' m' e' hm' =>
      have product : m * m' < 2 ^ 53 * 2 ^ 53 := Nat.mul_lt_mul'' hf.1 hg.1
      have exponents : e + e' ≤ j + k := Int.add_le_add hf.2 hg.2
      exact roundWithAccuracy_isSmall (Nat.lt_trans product (by decide)) exponents h _

theorem neg_isSmall {f : UnpackedFloat} {k : Int} (h : Fits k f) : IsSmall k f.neg := by
  cases f with
  | infinity => exact h.elim
  | notANumber => exact h.elim
  | zero => trivial
  | finite => exact h.2

theorem unpackExponent_ne_of_isFinite {bits : BitVec Format.binary64.numBits}
    (h : (unpack .binary64 bits).isFinite = true) : unpackExponent bits ≠ -1#_ := by
  intro full
  unfold unpack at h
  dsimp only at h
  rw [if_pos full] at h
  split at h <;> cases h

theorem fits_of_isFinite {bits : BitVec Format.binary64.numBits}
    (h : (unpack .binary64 bits).isFinite = true) : Fits 971 (unpack .binary64 bits) := by
  have exponent := unpackExponent_ne_of_isFinite h
  refine unpack_fits ?_ (by decide) (by decide)
  have bound := (unpackExponent bits).isLt
  change _ < 2048 at bound
  have last : (unpackExponent bits).toNat ≠ 2047 := by
    intro full
    exact exponent (BitVec.eq_of_toNat_eq full)
  omega

theorem neg_isFinite {x : Float} (h : x.isFinite = true) : (-x).isFinite = true :=
  (unpack_pack_fits (neg_isSmall (fits_of_isFinite h)) (by decide) (by decide)).isFinite

theorem shiftLeft_lt {n s : Nat} (h : n < 2 ^ 64) (hs : s ≤ 53) : n <<< s < 2 ^ 128 := by
  rw [Nat.shiftLeft_eq]
  have power : 2 ^ s ≤ 2 ^ 53 := Nat.pow_le_pow_right (by decide) hs
  have product : n * 2 ^ s < 2 ^ 64 * 2 ^ 53 := Nat.mul_lt_mul_of_lt_of_le h power (by decide)
  exact Nat.lt_trans product (by decide)

theorem ofNat_isSmall {n : Nat} (h : n < 2 ^ 64) :
    IsSmall (0 + 152) (UnpackedFloat.ofNat .binary64 n) := by
  unfold UnpackedFloat.ofNat UnpackedFloat.ofInt UnpackedFloat.normalize
  split
  · rename_i negative
    rw [Int.compare_eq_lt] at negative
    omega
  · trivial
  · unfold UnpackedFloat.round decreaseExponent
    dsimp only
    rw [Int.toNat_natCast]
    generalize hs : (0 - Format.binary64.targetExponent (totalExponent n 0)).toNat = s
    have shift : s ≤ 53 := by
      have bits : Format.binary64.mantissaBits = 53 := rfl
      rw [← hs]
      simp only [totalExponent, Format.targetExponent, bits, Format.minExponent]
      omega
    have exponent : (0 : Int) - s ≤ 0 := by omega
    exact roundWithAccuracy_isSmall (shiftLeft_lt h shift) exponent (by decide) _

theorem ofNat_isFinite {n : Nat} (h : n < 2 ^ 64) : (Float.ofNat n).isFinite = true := by
  change (Float.ofScientific n false 0).isFinite = true
  unfold Float.ofScientific
  split
  · -- the product of the number and one
    have whole : n.toUInt64.toNat = n := by
      rw [Nat.toUInt64_eq, UInt64.toNat_ofNat', Nat.mod_eq_of_lt h]
    have factor : Fits 152 (unpack .binary64 (pack .binary64 (.ofNat .binary64 n))) :=
      unpack_pack_fits (ofNat_isSmall h) (by decide) (by decide)
    have one : Fits 0 (Float.ofBits 0x3FF0000000000000).toModel.unpack :=
      unpack_fits (by decide) (by decide) (by decide)
    have product := mul_isSmall factor one (by decide)
    rw [← whole] at product
    exact (unpack_pack_fits product (by decide) (by decide)).isFinite
  · rename_i large
    have positive : n ≠ 0 := by omega
    have bounded : ¬ Int.ofNat 0 < -((2 ^ Format.binary64.exponentBits : Int) + n.log2) := by
      change ¬ (0 : Int) < -(2048 + n.log2)
      omega
    have scientific : IsSmall (0 + 152) (.ofScientific .binary64 n (Int.ofNat 0)) := by
      unfold UnpackedFloat.ofScientific
      rw [dif_neg positive, if_neg (by decide), if_neg bounded, if_pos (by decide)]
      rw [mul_finite]
      have exponent : -(Format.binary64.mantissaBits : Int) + 0 ≤ 0 := by decide
      refine roundWithAccuracy_isSmall ?_ exponent (Int.le_refl 0) _
      rw [Int.ofNat_eq_natCast, Int.toNat_natCast, Nat.pow_zero, Nat.mul_one]
      exact shiftLeft_lt h (by decide)
    exact (unpack_pack_fits scientific (by decide) (by decide)).isFinite

def Number.IsFinite : Number → Prop
  | .integer _ _ => True
  | .real x => x.isFinite = true

theorem Number.IsFinite.toFloat {n : Number} (h : n.IsFinite) : n.toFloat.isFinite = true := by
  cases n with
  | real x => exact h
  | integer n bounds =>
    have whole : (Float.ofNat n.natAbs).isFinite = true := ofNat_isFinite (by omega)
    rw [Number.toFloat]
    split
    · exact neg_isFinite whole
    · exact whole

mutual

/-- All numbers of the value are finite, as in every document. -/
def IsFinite : Json → Prop
  | .number n => n.IsFinite
  | .array items => ItemsFinite items
  | .object members => MembersFinite members
  | _ => True

def ItemsFinite : List Json → Prop
  | [] => True
  | v :: rest => v.IsFinite ∧ ItemsFinite rest

def MembersFinite : List (String × Json) → Prop
  | [] => True
  | (_, v) :: rest => v.IsFinite ∧ MembersFinite rest

end

theorem itemsFinite_iff {items : List Json} : ItemsFinite items ↔ ∀ v ∈ items, v.IsFinite := by
  induction items with
  | nil => simp [ItemsFinite]
  | cons v rest ih => simp [ItemsFinite, ih]

theorem membersFinite_iff {members : List (String × Json)} :
    MembersFinite members ↔ ∀ m ∈ members, m.2.IsFinite := by
  induction members with
  | nil => simp [MembersFinite]
  | cons m rest ih =>
    obtain ⟨key, v⟩ := m
    simp [MembersFinite, ih]

theorem lookup_isFinite {members : List (String × Json)} (h : MembersFinite members) {key : String}
    {v : Json} (hv : lookup key members = some v) : v.IsFinite :=
  membersFinite_iff.1 h _ (lookup_mem hv)

end SearchQuery.Json
