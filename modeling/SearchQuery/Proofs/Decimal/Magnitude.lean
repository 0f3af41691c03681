import Mathlib.Algebra.Order.Field.Power
import Mathlib.Data.Rat.Cast.Order
import Mathlib.Tactic
import SearchQuery.Decimal.Reading
import SearchQuery.Proofs.Json.Finite

/-!
# The size of rounded numbers

Rounding to double precision adds at most one part in 2^53.  A product of two rounded numbers is
therefore finite as long as the exact one stays a little below 2^1024.
-/

set_option autoImplicit false
namespace SearchQuery.Decimal
open Float.Model (Format UnpackedFloat totalExponent)
open Float.Model.UnpackedFloat
open Json (IsSmall Fits unpack_pack_fits roundedMantissa_le)

theorem mantissa_shiftRight (m k : Nat) :
    ((⟨m, false, false⟩ : ExtendedMantissa) >>> k).mantissa = m / 2 ^ k := by
  change (k.repeat ExtendedMantissa.shiftRightOne ⟨m, false, false⟩).mantissa = m / 2 ^ k
  induction k with
  | zero => exact (Nat.div_one m).symm
  | succ k ih =>
    rw [Nat.repeat, ExtendedMantissa.shiftRightOne, ih, Nat.div_div_eq_div_mul, Nat.pow_succ]

theorem roundedMantissa_le_roundBit (em : ExtendedMantissa) :
    em.roundedMantissa ≤ em.mantissa + em.roundBit.toNat := by
  obtain ⟨m, roundBit, stickyBit⟩ := em
  have parity := Nat.mod_lt m (show 0 < 2 by decide)
  cases roundBit <;> cases stickyBit <;>
    simp only [ExtendedMantissa.roundedMantissa, ExtendedMantissa.accuracy,
      UnpackedFloat.Accuracy.roundToNearestEven, Bool.toNat_true, Bool.toNat_false] <;> omega

theorem mantissa_le_roundedMantissa (em : ExtendedMantissa) :
    em.mantissa ≤ em.roundedMantissa := by
  obtain ⟨m, roundBit, stickyBit⟩ := em
  cases roundBit <;> cases stickyBit <;>
    simp only [ExtendedMantissa.roundedMantissa, ExtendedMantissa.accuracy,
      UnpackedFloat.Accuracy.roundToNearestEven] <;> omega

theorem roundedMantissa_shiftRight_le (m k : Nat) :
    ((⟨m, false, false⟩ : ExtendedMantissa) >>> (k + 1)).roundedMantissa * 2 ^ (k + 1) ≤
      m + 2 ^ k := by
  have rounded := roundedMantissa_le_roundBit ((⟨m, false, false⟩ : ExtendedMantissa) >>> (k + 1))
  have mantissa := mantissa_shiftRight m (k + 1)
  have bit : ((⟨m, false, false⟩ : ExtendedMantissa) >>> (k + 1)).roundBit =
      (m / 2 ^ k % 2 != 0) := by
    change (ExtendedMantissa.shiftRightOne
      ((⟨m, false, false⟩ : ExtendedMantissa) >>> k)).roundBit = _
    rw [ExtendedMantissa.shiftRightOne, mantissa_shiftRight]
  have halves : m / 2 ^ (k + 1) = m / 2 ^ k / 2 := by
    rw [Nat.pow_succ, Nat.div_div_eq_div_mul]
  have bit_le : (m / 2 ^ k % 2 != 0).toNat ≤ m / 2 ^ k % 2 := by
    rcases Nat.mod_two_eq_zero_or_one (m / 2 ^ k) with h | h <;> simp [h]
  have twice : ((⟨m, false, false⟩ : ExtendedMantissa) >>> (k + 1)).roundedMantissa * 2 ≤
      m / 2 ^ k + 1 := by
    rw [mantissa, bit, halves] at rounded
    omega
  calc ((⟨m, false, false⟩ : ExtendedMantissa) >>> (k + 1)).roundedMantissa * 2 ^ (k + 1)
      = ((⟨m, false, false⟩ : ExtendedMantissa) >>> (k + 1)).roundedMantissa * 2 * 2 ^ k := by ring
    _ ≤ (m / 2 ^ k + 1) * 2 ^ k := Nat.mul_le_mul_right _ twice
    _ = m / 2 ^ k * 2 ^ k + 2 ^ k := by ring
    _ ≤ m + 2 ^ k := Nat.add_le_add_right (Nat.div_mul_le_self m _) _

/-- The least number that is rounded to infinity. -/
def overflow : ℚ := (2 ^ 54 - 1) * 2 ^ 970

theorem overflow_lt : overflow < 2 ^ (1024 : ℤ) := by
  have power : (0 : ℚ) < 2 ^ 970 := by positivity
  calc overflow < 2 ^ 54 * 2 ^ 970 := mul_lt_mul_of_pos_right (by norm_num) power
    _ = 2 ^ (1024 : ℤ) := (pow_add 2 54 970).symm

theorem overflow_eq : overflow = ((2 ^ 54 - 1) * 2 ^ 970 : ℕ) := by
  rw [overflow, Nat.cast_mul, Nat.cast_pow]
  norm_num

theorem cast_lt_overflow {n : Nat} (h : n < (2 ^ 54 - 1) * 2 ^ 970) : (n : ℚ) < overflow := by
  rw [overflow_eq]
  exact_mod_cast h

theorem two_mul_overflow : 2 * overflow = ((2 ^ 54 - 1 : ℕ) : ℚ) * 2 ^ 971 := by
  rw [overflow, pow_succ (2 : ℚ) 970]
  generalize (2 : ℚ) ^ 970 = power
  norm_num
  ring

/-- A number from one on, with a mantissa of 53 bits, and no greater than the bound. -/
structure IsNormal (bound : ℚ) (m : Nat) (e : Int) : Prop where
  low : 2 ^ 52 ≤ m
  high : m < 2 ^ 53
  least : -52 ≤ e
  greatest : e ≤ 971
  bounded : (m : ℚ) * 2 ^ e ≤ bound

namespace IsNormal
variable {bound : ℚ} {m : Nat} {e : Int}

theorem pos (h : IsNormal bound m e) : 0 < m := Nat.lt_of_lt_of_le (by decide) h.low

theorem one_le (h : IsNormal bound m e) : 1 ≤ (m : ℚ) * 2 ^ e := by
  have mantissa : (2 : ℚ) ^ (52 : ℤ) ≤ m := by exact_mod_cast h.low
  have power : (2 : ℚ) ^ (-52 : ℤ) ≤ 2 ^ e := zpow_le_zpow_right₀ (by norm_num) h.least
  calc (1 : ℚ) = 2 ^ (52 : ℤ) * 2 ^ (-52 : ℤ) := by norm_num
    _ ≤ m * 2 ^ e := mul_le_mul mantissa power (by positivity) (by positivity)

end IsNormal

def YieldsNormal (f : UnpackedFloat) (bound : ℚ) : Prop :=
  ∃ s m e h, f = .finite s m e h ∧ IsNormal bound m e

theorem log2_eq {m k : Nat} (h : 2 ^ k ≤ m) (h' : m < 2 ^ (k + 1)) : m.log2 = k :=
  (Nat.log2_eq_iff (Nat.ne_of_gt (Nat.lt_of_lt_of_le (Nat.two_pow_pos k) h))).2 ⟨h, h'⟩

theorem shiftToTargetExponent_exact {m k : Nat} {e : Int} (size : m.log2 = 52 + k)
    (he : -1074 ≤ e + k) : shiftToTargetExponent .binary64 m e .exact =
      ((⟨m, false, false⟩ : ExtendedMantissa) >>> k, e + k) := by
  have target : Format.targetExponent .binary64 (totalExponent m e) = e + k := by
    have bits : Format.binary64.mantissaBits = 53 := rfl
    simp only [totalExponent, Format.targetExponent, bits, Format.minExponent, size]
    omega
  have shift : (e + k - e).toNat = k := by omega
  rw [shiftToTargetExponent, target, shiftToExponent, shift]
  rfl

theorem shiftToTargetExponent_normal {m : Nat} {e : Int} (low : 2 ^ 52 ≤ m) (high : m < 2 ^ 53)
    (he : -1074 ≤ e) :
    shiftToTargetExponent .binary64 m e .exact = (⟨m, false, false⟩, e) := by
  have exact := shiftToTargetExponent_exact (k := 0) (log2_eq low high) (e := e) (by simpa using he)
  rwa [Nat.cast_zero, add_zero] at exact

theorem roundWithAccuracy_eq {m : Nat} {e e₁ e₂ : Int} {em₁ em₂ : ExtendedMantissa}
    (first : shiftToTargetExponent .binary64 m e .exact = (em₁, e₁))
    (second : shiftToTargetExponent .binary64 em₁.roundedMantissa e₁ .exact = (em₂, e₂))
    (positive : 0 < em₂.mantissa) (s : Sign) :
    roundWithAccuracy .binary64 s m e .exact = .finite s em₂.mantissa e₂ positive := by
  obtain ⟨rfl, rfl⟩ := Prod.ext_iff.1 first
  obtain ⟨rfl, rfl⟩ := Prod.ext_iff.1 second
  exact dif_neg (Nat.ne_of_gt positive)

theorem roundWithAccuracy_normal {m : Nat} {e : Int} (low : 2 ^ 52 ≤ m) (high : m < 2 ^ 53)
    (he : -1074 ≤ e) (s : Sign) : roundWithAccuracy .binary64 s m e .exact =
      .finite s m e (Nat.lt_of_lt_of_le (by decide) low) :=
  have same := shiftToTargetExponent_normal low high he
  roundWithAccuracy_eq same same _ s

section Rounding
variable {m : Nat} {e : Int}

theorem roundedMantissa_bounds {k : Nat} (size : m.log2 = 52 + k) (low : 2 ^ 52 ≤ m) :
    let r := ((⟨m, false, false⟩ : ExtendedMantissa) >>> k).roundedMantissa
    2 ^ 52 ≤ r ∧ r ≤ 2 ^ 53 ∧ r * 2 ^ k * 2 ^ 53 ≤ m * (2 ^ 53 + 1) ∧
      (r = 2 ^ 53 → (2 ^ 54 - 1) * 2 ^ k ≤ 2 * m) := by
  intro r
  have positive : m ≠ 0 := by omega
  have least : 2 ^ (52 + k) ≤ m := (Nat.le_log2 positive).1 (Nat.le_of_eq size.symm)
  have below : m < 2 ^ (53 + k) := (Nat.log2_lt positive).1 (by omega)
  have mantissa : m / 2 ^ k ≤ r := by
    rw [← mantissa_shiftRight]
    exact mantissa_le_roundedMantissa _
  have enough : 2 ^ 52 ≤ m / 2 ^ k := by
    rw [Nat.le_div_iff_mul_le (Nat.two_pow_pos k), ← Nat.pow_add]
    exact least
  cases k with
  | zero =>
    have same : r = m := rfl
    rw [same]
    exact ⟨low, Nat.le_of_lt below, by omega, fun h => by omega⟩
  | succ k =>
    have added : r * 2 ^ (k + 1) ≤ m + 2 ^ k := roundedMantissa_shiftRight_le m k
    have split : 2 ^ (k + 1) = 2 * 2 ^ k := by ring
    have least : 2 ^ 53 * 2 ^ k ≤ m := by
      rw [← Nat.pow_add, show 53 + k = 52 + (k + 1) by omega]
      exact least
    have below : m < 2 ^ 54 * 2 ^ k := by
      rw [← Nat.pow_add, show 54 + k = 53 + (k + 1) by omega]
      exact below
    have half : 0 < 2 ^ k := Nat.two_pow_pos k
    rw [split] at added ⊢
    refine ⟨Nat.le_trans enough mantissa, ?_, ?_, fun full => ?_⟩
    · -- The greatest mantissa is rounded up to 2^53 and no further.
      by_contra above
      have many : (2 ^ 53 + 1) * (2 * 2 ^ k) ≤ r * (2 * 2 ^ k) :=
        Nat.mul_le_mul_right _ (Nat.lt_of_not_le above)
      omega
    · omega
    · rw [full] at added
      omega

theorem two_zpow_add (i j : ℤ) : (2 : ℚ) ^ (i + j) = 2 ^ i * 2 ^ j := zpow_add₀ (by norm_num) i j

theorem exponent_bounds {k : Nat} (size : m.log2 = 52 + k) (low : 2 ^ 52 ≤ m)
    (least : 1 ≤ (m : ℚ) * 2 ^ e) (bounded : (m : ℚ) * 2 ^ e < overflow) :
    -52 ≤ e + k ∧ e + k ≤ 971 := by
  have positive : m ≠ 0 := by omega
  have pos : (0 : ℚ) < 2 ^ e := by positivity
  constructor
  · have below : (m : ℚ) < 2 ^ ((53 + k : ℕ) : ℤ) := by
      exact_mod_cast (Nat.log2_lt positive).1 (by omega)
    have power : (2 : ℚ) ^ (0 : ℤ) < 2 ^ (((53 + k : ℕ) : ℤ) + e) := by
      rw [two_zpow_add, zpow_zero]
      exact lt_of_le_of_lt least (mul_lt_mul_of_pos_right below pos)
    have := (zpow_lt_zpow_iff_right₀ (by norm_num)).1 power
    push_cast at this
    omega
  · have atLeast : (2 : ℚ) ^ ((52 + k : ℕ) : ℤ) ≤ m := by
      exact_mod_cast (Nat.le_log2 positive).1 (Nat.le_of_eq size.symm)
    have power : (2 : ℚ) ^ (((52 + k : ℕ) : ℤ) + e) < 2 ^ (1024 : ℤ) := by
      rw [two_zpow_add]
      refine lt_of_le_of_lt (mul_le_mul_of_nonneg_right atLeast (le_of_lt pos)) ?_
      exact lt_trans bounded overflow_lt
    have := (zpow_lt_zpow_iff_right₀ (by norm_num)).1 power
    push_cast at this
    omega

/-- A carry into the greatest exponent takes a number that overflows. -/
theorem exponent_ne_of_carry {k : Nat} (full : (2 ^ 54 - 1) * 2 ^ k ≤ 2 * m)
    (bounded : (m : ℚ) * 2 ^ e < overflow) : e + k ≠ 971 := by
  intro last
  have pos : (0 : ℚ) < 2 ^ e := by positivity
  have full : ((2 ^ 54 - 1 : ℕ) : ℚ) * 2 ^ k ≤ 2 * m := by exact_mod_cast full
  have top : (2 : ℚ) ^ e * 2 ^ k = 2 ^ 971 := by
    rw [← zpow_natCast, ← two_zpow_add, last]
    rfl
  have twice : 2 * overflow ≤ 2 * ((m : ℚ) * (2 : ℚ) ^ e) := by
    calc 2 * overflow = ((2 ^ 54 - 1 : ℕ) : ℚ) * ((2 : ℚ) ^ e * 2 ^ k) := by
          rw [top, two_mul_overflow]
      _ = ((2 ^ 54 - 1 : ℕ) : ℚ) * 2 ^ k * (2 : ℚ) ^ e := by ring
      _ ≤ 2 * (m : ℚ) * (2 : ℚ) ^ e := mul_le_mul_of_nonneg_right full (le_of_lt pos)
      _ = 2 * ((m : ℚ) * (2 : ℚ) ^ e) := by ring
  linarith

theorem rounded_le {r k : Nat} (added : r * 2 ^ k * 2 ^ 53 ≤ m * (2 ^ 53 + 1)) :
    (r : ℚ) * 2 ^ (e + k) ≤ (m : ℚ) * 2 ^ e * (2 ^ 53 + 1) / 2 ^ 53 := by
  have pos : (0 : ℚ) < 2 ^ e := by positivity
  have added : (r : ℚ) * 2 ^ k * 2 ^ 53 ≤ m * (2 ^ 53 + 1) := by exact_mod_cast added
  rw [le_div_iff₀ (by positivity), two_zpow_add, zpow_natCast]
  calc (r : ℚ) * ((2 : ℚ) ^ e * 2 ^ k) * 2 ^ 53 = (r : ℚ) * 2 ^ k * 2 ^ 53 * (2 : ℚ) ^ e := by
        ring
    _ ≤ (m : ℚ) * (2 ^ 53 + 1) * (2 : ℚ) ^ e := mul_le_mul_of_nonneg_right added (le_of_lt pos)
    _ = (m : ℚ) * (2 : ℚ) ^ e * (2 ^ 53 + 1) := by ring

theorem roundWithAccuracy_isNormal (low : 2 ^ 52 ≤ m) (least : 1 ≤ (m : ℚ) * 2 ^ e)
    (bounded : (m : ℚ) * 2 ^ e < overflow) (s : Sign) :
    YieldsNormal (roundWithAccuracy .binary64 s m e .exact)
      ((m : ℚ) * 2 ^ e * (2 ^ 53 + 1) / 2 ^ 53) := by
  obtain ⟨k, size⟩ : ∃ k, m.log2 = 52 + k :=
    Nat.exists_eq_add_of_le ((Nat.le_log2 (by omega)).2 low)
  obtain ⟨exponent_low, exponent_high⟩ := exponent_bounds size low least bounded
  obtain ⟨enough, few, added, full⟩ := roundedMantissa_bounds size low
  have first := shiftToTargetExponent_exact size (e := e) (by omega)
  generalize hem : (⟨m, false, false⟩ : ExtendedMantissa) >>> k = em at first enough few added full
  have sum := rounded_le (e := e) added
  rcases Nat.lt_or_eq_of_le few with few | carry
  · have second := shiftToTargetExponent_normal enough few (e := e + k) (by omega)
    rw [roundWithAccuracy_eq first second (Nat.lt_of_lt_of_le (by decide) enough)]
    exact ⟨s, _, e + k, _, rfl, enough, few, exponent_low, exponent_high, sum⟩
  · -- The carry makes a bit more, which is shifted out again.
    have second := shiftToTargetExponent_exact (m := em.roundedMantissa) (k := 1) (e := e + k)
      (by rw [carry, Nat.log2_two_pow]) (by omega)
    have mantissa :
        ((⟨em.roundedMantissa, false, false⟩ : ExtendedMantissa) >>> 1).mantissa = 2 ^ 52 := by
      rw [mantissa_shiftRight, carry]
      rfl
    have last := exponent_ne_of_carry (full carry) bounded
    rw [roundWithAccuracy_eq first second (by rw [mantissa]; decide)]
    refine ⟨s, _, _, _, rfl, ?_⟩
    rw [mantissa]
    refine ⟨Nat.le_refl _, by decide, by omega, by omega, ?_⟩
    refine le_trans (le_of_eq ?_) sum
    rw [carry, Nat.cast_one, two_zpow_add (e + k) 1]
    push_cast
    ring

end Rounding

theorem toNat_append_one {m : Nat} (low : 2 ^ 52 ≤ m) (high : m < 2 ^ 53) :
    (1#1 ++ BitVec.ofNat 52 m).toNat = m := by
  rw [BitVec.toNat_append, BitVec.toNat_ofNat, BitVec.toNat_ofNat, Nat.shiftLeft_eq]
  change 2 ^ 52 ||| m % 2 ^ 52 = m
  rw [Nat.or_comm, Nat.or_two_pow_eq_add_of_lt (Nat.mod_lt m (Nat.two_pow_pos 52))]
  omega

theorem ofNat_ne {n k : Nat} (hn : n < 2048) (hk : k < 2048) (other : n ≠ k) :
    BitVec.ofNat 11 n ≠ BitVec.ofNat 11 k := by
  intro same
  have values := congrArg BitVec.toNat same
  rw [BitVec.toNat_ofNat, BitVec.toNat_ofNat, Nat.mod_eq_of_lt hn, Nat.mod_eq_of_lt hk] at values
  exact other values

theorem pack_of_isNormal {bound : ℚ} {m : Nat} {e : Int} (normal : IsNormal bound m e) (s : Sign)
    (positive : 0 < m) : pack .binary64 (.finite s m e positive) =
      packComponents .binary64 s (BitVec.ofNat 11 (e + 1075).toNat) (BitVec.ofNat 52 m) := by
  have least := normal.least
  have greatest := normal.greatest
  have unfolded : pack .binary64 (.finite s m e positive) =
      if 2048 ≤ (e + 1023 + 52).toNat + 1 then packedInfinity .binary64 s
      else if m.log2 + 1 = 53 then
        packComponents .binary64 s (BitVec.ofNat 11 (e + 1023 + 52).toNat) (BitVec.ofNat 52 m)
      else packComponents .binary64 s 0#_ (BitVec.ofNat _ m) := rfl
  rw [unfolded, if_neg (by omega), if_pos (by rw [log2_eq normal.low normal.high]),
    Int.add_assoc]
  rfl

theorem unpack_normal {bound : ℚ} {m : Nat} {e : Int} (normal : IsNormal bound m e)
    {bits : BitVec Format.binary64.numBits}
    (exponent : unpackExponent bits = BitVec.ofNat 11 (e + 1075).toNat)
    (mantissa : unpackMantissa bits = BitVec.ofNat 52 m) :
    YieldsNormal (unpack .binary64 bits) bound := by
  have least := normal.least
  have greatest := normal.greatest
  have small : (e + 1075).toNat < 2048 := by omega
  have finite : unpackExponent bits ≠ -1#_ := by
    rw [exponent]
    exact ofNat_ne (k := 2047) small (by decide) (by omega)
  have notZero : unpackExponent bits ≠ 0#_ := by
    rw [exponent]
    exact ofNat_ne (k := 0) small (by decide) (by omega)
  have biased : ((unpackExponent bits).toNat : Int) - (1023 + 52) = e := by
    have same : (unpackExponent bits).toNat = (e + 1075).toNat := by
      rw [exponent]
      exact Nat.mod_eq_of_lt small
    omega
  have whole : (1#1 ++ unpackMantissa bits).toNat = m := by
    rw [mantissa]
    exact toNat_append_one normal.low normal.high
  unfold unpack
  dsimp only
  rw [if_neg finite, if_neg notZero]
  refine ⟨_, _, _, _, rfl, ?_⟩
  change IsNormal bound _ (((unpackExponent bits).toNat : Int) - (1023 + 52))
  rw [whole, biased]
  exact normal

theorem YieldsNormal.unpack_pack {f : UnpackedFloat} {bound : ℚ} (h : YieldsNormal f bound) :
    YieldsNormal (unpack .binary64 (pack .binary64 f)) bound := by
  obtain ⟨s, m, e, positive, rfl, normal⟩ := h
  rw [pack_of_isNormal normal]
  exact unpack_normal normal unpackExponent_packComponents unpackMantissa_packComponents

theorem YieldsNormal.isFinite {f : UnpackedFloat} {bound : ℚ} (h : YieldsNormal f bound) :
    f.isFinite = true := by
  obtain ⟨s, m, e, positive, rfl, -⟩ := h
  rfl

theorem YieldsNormal.mul {f g : UnpackedFloat} {b c : ℚ} (hf : YieldsNormal f b)
    (hg : YieldsNormal g c) (bounded : b * c < overflow) :
    YieldsNormal (mul .binary64 f g) (b * c * (2 ^ 53 + 1) / 2 ^ 53) := by
  obtain ⟨s, m, e, positive, rfl, first⟩ := hf
  obtain ⟨s', m', e', positive', rfl, second⟩ := hg
  have exponents : (2 : ℚ) ^ (e + e') = 2 ^ e * 2 ^ e' := zpow_add₀ (by norm_num) e e'
  have value : ((m * m' : ℕ) : ℚ) * 2 ^ (e + e') = (m * 2 ^ e) * (m' * 2 ^ e') := by
    rw [exponents]
    push_cast
    ring
  have product : (m * 2 ^ e : ℚ) * (m' * 2 ^ e') ≤ b * c :=
    mul_le_mul first.bounded second.bounded (by positivity)
      (le_trans (by positivity) first.bounded)
  have least : (1 : ℚ) ≤ ((m * m' : ℕ) : ℚ) * 2 ^ (e + e') := by
    rw [value]
    exact one_le_mul_of_one_le_of_one_le first.one_le second.one_le
  have low : 2 ^ 52 ≤ m * m' := Nat.le_trans first.low (Nat.le_mul_of_pos_right m second.pos)
  obtain ⟨s'', n, k, h, same, normal⟩ := roundWithAccuracy_isNormal low least
    (by rw [value]; exact lt_of_le_of_lt product bounded) (s * s')
  refine ⟨s'', n, k, h, (Json.mul_finite).trans same, { normal with bounded := ?_ }⟩
  refine le_trans normal.bounded ?_
  rw [value]
  gcongr

theorem lt_overflow {x : ℚ} (h : x < 2 ^ 64) : x < overflow := by
  refine lt_trans h ?_
  have power : (2 : ℚ) ^ 64 ≤ 2 ^ 970 := pow_le_pow_right₀ (by norm_num) (by norm_num)
  have pos : (0 : ℚ) < 2 ^ 970 := by positivity
  calc (2 : ℚ) ^ 64 ≤ 2 ^ 970 := power
    _ < (2 ^ 54 - 1) * 2 ^ 970 := lt_mul_of_one_lt_left pos (by norm_num)

theorem ofScientific_yieldsNormal {c e : Nat} (some : 0 < c) (he : e ≤ 2048)
    (bounded : (c : ℚ) * 10 ^ e < overflow) :
    YieldsNormal (.ofScientific .binary64 c (Int.ofNat e))
      (c * 10 ^ e * (2 ^ 53 + 1) / 2 ^ 53) := by
  have value : ((c <<< 53 * 10 ^ e : ℕ) : ℚ) * 2 ^ (-53 : ℤ) = c * 10 ^ e := by
    rw [Nat.shiftLeft_eq]
    push_cast
    rw [zpow_neg]
    norm_num
    ring
  have low : 2 ^ 52 ≤ c <<< 53 * 10 ^ e := by
    rw [Nat.shiftLeft_eq]
    have power : 0 < 10 ^ e := Nat.pow_pos (by decide)
    calc 2 ^ 52 ≤ 1 * 2 ^ 53 * 1 := by decide
      _ ≤ c * 2 ^ 53 * 10 ^ e := Nat.mul_le_mul (Nat.mul_le_mul_right _ some) power
  have least : (1 : ℚ) ≤ c * 10 ^ e := by
    exact_mod_cast Nat.mul_pos some (Nat.pow_pos (by decide))
  have rounded := roundWithAccuracy_isNormal low (e := -53) (by rwa [value]) (by rwa [value])
    (.positive * .positive)
  rw [value] at rounded
  have inRange : ¬Int.ofNat e > 2 ^ Format.binary64.exponentBits := by
    change ¬((e : Int) > 2048)
    omega
  have notTiny : ¬Int.ofNat e < -((2 ^ Format.binary64.exponentBits : Int) + c.log2) := by
    change ¬(e : Int) < -(2048 + c.log2)
    omega
  have up : 0 ≤ Int.ofNat e := Int.natCast_nonneg e
  unfold UnpackedFloat.ofScientific
  rw [dif_neg (Nat.ne_of_gt some), if_neg inRange, if_neg notTiny, if_pos up, Json.mul_finite]
  exact rounded

theorem shiftLeft_isNormal {n k : Nat} (some : 0 < n) (small : n < 2 ^ 53) (log : n.log2 = k) :
    IsNormal n (n <<< (52 - k)) (k - 52) := by
  have positive : n ≠ 0 := Nat.ne_of_gt some
  have least : 2 ^ k ≤ n := (Nat.le_log2 positive).1 (Nat.le_of_eq log.symm)
  have below : n < 2 ^ (k + 1) := (Nat.log2_lt positive).1 (by omega)
  have bits : k < 53 := log ▸ (Nat.log2_lt positive).2 small
  refine ⟨?_, ?_, by omega, by omega, le_of_eq ?_⟩
  · rw [Nat.shiftLeft_eq]
    calc 2 ^ 52 = 2 ^ k * 2 ^ (52 - k) := by rw [← Nat.pow_add, Nat.add_sub_cancel' (by omega)]
      _ ≤ n * 2 ^ (52 - k) := Nat.mul_le_mul_right _ least
  · rw [Nat.shiftLeft_eq]
    calc n * 2 ^ (52 - k) < 2 ^ (k + 1) * 2 ^ (52 - k) :=
          Nat.mul_lt_mul_of_pos_right below (Nat.two_pow_pos _)
      _ = 2 ^ 53 := by rw [← Nat.pow_add, show k + 1 + (52 - k) = 53 by omega]
  · rw [Nat.shiftLeft_eq, show (k : ℤ) - 52 = -((52 - k : ℕ) : ℤ) by omega, zpow_neg, zpow_natCast]
    push_cast
    exact mul_inv_cancel_right₀ (by positivity) _

theorem ofNat_yieldsNormal {n : Nat} (some : 0 < n) (small : n < 2 ^ 53) :
    YieldsNormal (.ofNat .binary64 n) n := by
  obtain ⟨k, log⟩ : ∃ k, n.log2 = k := ⟨_, rfl⟩
  have normal := shiftLeft_isNormal some small log
  have bits : k < 53 := log ▸ (Nat.log2_lt (Nat.ne_of_gt some)).2 small
  have target : Format.targetExponent .binary64 (totalExponent n 0) = k - 52 := by
    have bits : Format.binary64.mantissaBits = 53 := rfl
    simp only [totalExponent, Format.targetExponent, bits, Format.minExponent, log]
    omega
  have shift : (0 - ((k : Int) - 52)).toNat = 52 - k := by omega
  have exponent : (0 : Int) - (52 - k : Nat) = k - 52 := by omega
  unfold UnpackedFloat.ofNat UnpackedFloat.ofInt UnpackedFloat.normalize
  split
  · rename_i negative
    rw [Int.compare_eq_lt] at negative
    omega
  · rename_i zero
    rw [Int.compare_eq_eq] at zero
    omega
  · unfold UnpackedFloat.round decreaseExponent
    dsimp only
    rw [Int.toNat_natCast, target, shift, exponent,
      roundWithAccuracy_normal normal.low normal.high (by omega)]
    exact ⟨_, _, _, _, rfl, normal⟩

def isExactPower (e : Nat) (x : Float) : Bool :=
  match x.toModel.unpack with
  | .finite _ m k _ => decide (2 ^ 52 ≤ m) && decide (m < 2 ^ 53) && decide (-52 ≤ k) &&
      decide (k ≤ 971) && decide (m * 2 ^ k.toNat = 10 ^ e * 2 ^ (-k).toNat)
  | _ => false

theorem powersOfTen_exact : ∀ (e : Nat) (h : e < Float.exactlyRepresentablePowersOfTen.size),
    isExactPower e Float.exactlyRepresentablePowersOfTen[e] = true := by
  decide

theorem IsNormal.of_exact {m c : Nat} {k : Int} (low : 2 ^ 52 ≤ m) (high : m < 2 ^ 53)
    (least : -52 ≤ k) (greatest : k ≤ 971) (exact : m * 2 ^ k.toNat = c * 2 ^ (-k).toNat) :
    IsNormal c m k := by
  refine ⟨low, high, least, greatest, le_of_eq ?_⟩
  have exact : (m : ℚ) * 2 ^ k.toNat = c * 2 ^ (-k).toNat := by exact_mod_cast exact
  rcases Int.le_total 0 k with up | down
  · rw [Int.toNat_of_nonpos (Int.neg_nonpos_of_nonneg up), pow_zero, mul_one] at exact
    rw [← exact, ← zpow_natCast, Int.toNat_of_nonneg up]
  · rw [Int.toNat_of_nonpos down, pow_zero, mul_one] at exact
    rw [exact, ← zpow_natCast, Int.toNat_of_nonneg (Int.neg_nonneg_of_nonpos down), mul_assoc,
      ← zpow_add₀ (by norm_num), neg_add_cancel, zpow_zero, mul_one]

theorem yieldsNormal_of_isExactPower {e : Nat} {x : Float} (h : isExactPower e x = true) :
    YieldsNormal x.toModel.unpack (10 ^ e) := by
  unfold isExactPower at h
  split at h
  · rename_i s m k positive same
    simp only [Bool.and_eq_true, decide_eq_true_iff] at h
    obtain ⟨⟨⟨⟨low, high⟩, least⟩, greatest⟩, exact⟩ := h
    have normal := IsNormal.of_exact low high least greatest exact
    push_cast at normal
    exact ⟨s, m, k, positive, same, normal⟩
  · cases h

theorem float_ofScientific_yieldsNormal {c e : Nat} (some : 0 < c) (he : e ≤ 2048)
    (bounded : (c : ℚ) * 10 ^ e < overflow) :
    YieldsNormal (Float.ofScientific c false e).toModel.unpack
      (c * 10 ^ e * (2 ^ 53 + 1) / 2 ^ 53) := by
  unfold Float.ofScientific
  split
  · rename_i small
    have whole : c.toUInt64.toNat = c := by
      rw [Nat.toUInt64_eq, UInt64.toNat_ofNat', Nat.mod_eq_of_lt (by omega)]
    have factor : YieldsNormal c.toUInt64.toFloat.toModel.unpack c := by
      have exact : YieldsNormal (.ofNat .binary64 c.toUInt64.toNat) c := by
        rw [whole]
        exact ofNat_yieldsNormal some small.1
      exact exact.unpack_pack
    have bound : e < Float.exactlyRepresentablePowersOfTen.size := Nat.lt_succ_of_le small.2
    have power := yieldsNormal_of_isExactPower (powersOfTen_exact e bound)
    exact (factor.mul power bounded).unpack_pack
  · exact (ofScientific_yieldsNormal some he bounded).unpack_pack

theorem ofNat_float_yieldsNormal {n : Nat} (some : 0 < n) (h : n < 2 ^ 64) :
    YieldsNormal (Float.ofNat n).toModel.unpack (n * (2 ^ 53 + 1) / 2 ^ 53) := by
  have bounded : (n : ℚ) * 10 ^ 0 < overflow := by
    rw [pow_zero, mul_one]
    exact lt_overflow (by exact_mod_cast h)
  have rounded := float_ofScientific_yieldsNormal some (e := 0) (by decide) bounded
  rwa [pow_zero, mul_one] at rounded

theorem nearest_power_yieldsNormal {e : Nat} (he : e ≤ 308) :
    YieldsNormal (nearest 1 e).toModel.unpack (10 ^ e * (2 ^ 53 + 1) / 2 ^ 53) := by
  have bounded : ((1 : ℕ) : ℚ) * 10 ^ e < overflow := by
    have power : 10 ^ e < (2 ^ 54 - 1) * 2 ^ 970 := by
      calc 10 ^ e ≤ 10 ^ 308 := by gcongr; decide
        _ < (2 ^ 54 - 1) * 2 ^ 970 := by decide +kernel
    have power := cast_lt_overflow power
    push_cast at power ⊢
    rwa [one_mul]
  have rounded := float_ofScientific_yieldsNormal Nat.one_pos (by omega) bounded
  rw [Nat.cast_one, one_mul] at rounded
  have size : (Nat.toDigits 10 1).length = 1 := rfl
  unfold nearest
  dsimp only
  rw [size, if_neg (by omega), if_neg (by omega)]
  exact rounded

theorem isInf_of_isFinite {x : Float} (h : x.isFinite = true) : x.isInf = false := by
  have h : x.toModel.unpack.isFinite = true := h
  change x.toModel.unpack.isInf = false
  cases unpacked : x.toModel.unpack with
  | infinity => rw [unpacked] at h; cases h
  | notANumber => rfl
  | zero => rfl
  | finite => rfl

/-- How much the two roundings before the product add to it. -/
def slack : ℚ := ((2 ^ 53 + 1) / 2 ^ 53) ^ 2

/-- A whole number times a power of ten is finite unless it is as large as the numbers that are
rounded to infinity, or almost. -/
theorem ofNat_mul_power_isFinite {n e : Nat} (hn : n < 2 ^ 64) (he : e ≤ 308)
    (bounded : (n : ℚ) * 10 ^ e * slack < overflow) :
    (Float.ofNat n * nearest 1 e).isFinite = true := by
  have power := nearest_power_yieldsNormal he
  rcases Nat.eq_zero_or_pos n with rfl | some
  · have zero : (Float.ofNat 0).toModel.unpack = .zero .positive := by
      with_unfolding_all rfl
    obtain ⟨s, m, k, positive, finite, -⟩ := power
    have product : mul .binary64 (Float.ofNat 0).toModel.unpack (nearest 1 e).toModel.unpack =
        .zero (.positive * s) := by
      rw [zero, finite]
      rfl
    have small : IsSmall 0 (mul .binary64 (Float.ofNat 0).toModel.unpack
        (nearest 1 e).toModel.unpack) := by
      rw [product]
      trivial
    exact (unpack_pack_fits small (by decide) (by decide)).isFinite
  · have whole := ofNat_float_yieldsNormal some hn
    have bounded : (n * (2 ^ 53 + 1) / 2 ^ 53 : ℚ) * (10 ^ e * (2 ^ 53 + 1) / 2 ^ 53) <
        overflow := by
      refine lt_of_eq_of_lt ?_ bounded
      rw [slack]
      ring
    exact (whole.mul power bounded).unpack_pack.isFinite

end SearchQuery.Decimal
