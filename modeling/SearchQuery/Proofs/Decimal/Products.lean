import Mathlib
import SearchQuery.Proofs.Decimal.One

/-!
# Products at the ends of the range

A product is rounded to the nearest number of double precision, of two equally near to the even one.
So it is zero up to half the least number, and infinite from half a step behind the greatest one on
(`mul_range`).
-/

set_option autoImplicit false
namespace SearchQuery.Decimal
open Float.Model (Format UnpackedFloat totalExponent)
open Float.Model.UnpackedFloat

/-- A mantissa without its last `k` bits, rounded to the nearest, of two equally near to the even
one. -/
def rounded (m k : Nat) : Nat := ((⟨m, false, false⟩ : ExtendedMantissa) >>> k).roundedMantissa

theorem shiftRight_succ (em : ExtendedMantissa) (k : Nat) :
    em >>> (k + 1) = (em >>> k).shiftRightOne := rfl

theorem roundBit_shiftRight (m k : Nat) :
    ((⟨m, false, false⟩ : ExtendedMantissa) >>> (k + 1)).roundBit = (m / 2 ^ k % 2 != 0) := by
  rw [shiftRight_succ, ExtendedMantissa.shiftRightOne, mantissa_shiftRight]

theorem stickyBit_shiftRight (m k : Nat) :
    ((⟨m, false, false⟩ : ExtendedMantissa) >>> (k + 1)).stickyBit = (m % 2 ^ k != 0) := by
  induction k with
  | zero =>
    rw [Nat.pow_zero, Nat.mod_one]
    rfl
  | succ k ih =>
    have power := Nat.two_pow_pos k
    rw [shiftRight_succ, ExtendedMantissa.shiftRightOne, ih, roundBit_shiftRight, Nat.mod_pow_succ]
    rcases Nat.mod_two_eq_zero_or_one (m / 2 ^ k) with even | odd
    · simp [even]
    · simp [odd]

theorem rounded_succ (m k : Nat) :
    rounded m (k + 1) =
      if m / 2 ^ k % 2 = 0 then m / 2 ^ k / 2
      else if m % 2 ^ k = 0 then m / 2 ^ k / 2 + m / 2 ^ k / 2 % 2
      else m / 2 ^ k / 2 + 1 := by
  have mantissa := mantissa_shiftRight m (k + 1)
  have roundBit := roundBit_shiftRight m k
  have stickyBit := stickyBit_shiftRight m k
  rw [Nat.pow_succ, ← Nat.div_div_eq_div_mul] at mantissa
  rw [rounded]
  generalize (⟨m, false, false⟩ : ExtendedMantissa) >>> (k + 1) = em
    at mantissa roundBit stickyBit ⊢
  obtain ⟨n, b, c⟩ := em
  obtain rfl : n = _ := mantissa
  split
  · rename_i even
    obtain rfl : b = false := by simpa [even] using roundBit
    cases c <;> rfl
  · rename_i odd
    obtain rfl : b = true := roundBit.trans (bne_iff_ne.2 odd)
    split
    · rename_i exact
      obtain rfl : c = false := by simpa [exact] using stickyBit
      rfl
    · rename_i inexact
      obtain rfl : c = true := stickyBit.trans (bne_iff_ne.2 inexact)
      rfl

theorem rounded_eq_zero_iff {m : Nat} (positive : 0 < m) (k : Nat) :
    rounded m k = 0 ↔ 2 * m ≤ 2 ^ k := by
  cases k with
  | zero =>
    change m = 0 ↔ 2 * m ≤ 1
    omega
  | succ k =>
    have parts := Nat.div_add_mod m (2 ^ k)
    have below := Nat.mod_lt m (Nat.two_pow_pos k)
    rw [rounded_succ, Nat.pow_succ]
    generalize m / 2 ^ k = q at parts ⊢
    generalize m % 2 ^ k = s at parts below ⊢
    have half : 2 * m ≤ 2 ^ k * 2 ↔ q = 0 ∨ q = 1 ∧ s = 0 := by
      obtain rfl | rfl | many : q = 0 ∨ q = 1 ∨ 2 ≤ q := by omega
      · omega
      · omega
      · have twice : 2 ^ k * 2 ≤ 2 ^ k * q := Nat.mul_le_mul_left _ many
        omega
    rw [half]
    split
    · omega
    · split <;> omega

theorem rounded_eq_carry_iff {m k : Nat} (high : m < 2 ^ (53 + k)) :
    rounded m k = 2 ^ 53 ↔ (2 ^ 54 - 1) * 2 ^ k ≤ 2 * m := by
  cases k with
  | zero =>
    change m = 2 ^ 53 ↔ (2 ^ 54 - 1) * 1 ≤ 2 * m
    omega
  | succ k =>
    have power := Nat.two_pow_pos k
    have enough : (2 ^ 54 - 1) * 2 ^ (k + 1) ≤ 2 * m ↔ 2 ^ 54 - 1 ≤ m / 2 ^ k := by
      rw [Nat.le_div_iff_mul_le power, Nat.pow_succ]
      omega
    have few : m / 2 ^ k < 2 ^ 54 := by
      rw [Nat.div_lt_iff_lt_mul power, ← Nat.pow_add, show 54 + k = 53 + (k + 1) by omega]
      exact high
    rw [rounded_succ, enough]
    split
    · omega
    · split <;> omega

theorem rounded_le_carry {m k : Nat} (high : m < 2 ^ (53 + k)) : rounded m k ≤ 2 ^ 53 := by
  cases k with
  | zero => exact Nat.le_of_lt high
  | succ k =>
    have few : m / 2 ^ k < 2 ^ 54 := by
      rw [Nat.div_lt_iff_lt_mul (Nat.two_pow_pos k), ← Nat.pow_add,
        show 54 + k = 53 + (k + 1) by omega]
      exact high
    rw [rounded_succ]
    split
    · omega
    · split <;> omega

theorem le_rounded {m k : Nat} (low : 2 ^ (52 + k) ≤ m) : 2 ^ 52 ≤ rounded m k := by
  have kept : 2 ^ 52 ≤ m / 2 ^ k := by
    rwa [Nat.le_div_iff_mul_le (Nat.two_pow_pos k), ← Nat.pow_add]
  have mantissa := mantissa_le_roundedMantissa ((⟨m, false, false⟩ : ExtendedMantissa) >>> k)
  rw [mantissa_shiftRight] at mantissa
  exact Nat.le_trans kept mantissa

/-- The last `k` bits of a mantissa are more than the format has for the number. -/
def Exceeds (m : Nat) (e : Int) (k : Nat) : Prop :=
  Format.binary64.targetExponent (totalExponent m e) = e + k

theorem exceeds_iff {m : Nat} {e : Int} {k : Nat} :
    Exceeds m e k ↔ max ((m.log2 : Int) + 1 + e - 53) (-1074) = e + k := by
  have bits : Format.binary64.mantissaBits = 53 := rfl
  simp only [Exceeds, totalExponent, Format.targetExponent, bits, Format.minExponent]
  rfl

section Rounding
variable {m k : Nat} {e : Int}

theorem Exceeds.lt (h : Exceeds m e k) (positive : 0 < m) : m < 2 ^ (53 + k) := by
  rw [exceeds_iff] at h
  exact (Nat.log2_lt (Nat.ne_of_gt positive)).1 (by omega)

theorem Exceeds.least_or_le (h : Exceeds m e k) (positive : 0 < m) :
    e + k = -1074 ∨ -1074 < e + k ∧ 2 ^ (52 + k) ≤ m := by
  rw [exceeds_iff] at h
  by_cases least : e + k = -1074
  · exact .inl least
  · exact .inr ⟨by omega, (Nat.le_log2 (Nat.ne_of_gt positive)).1 (by omega)⟩

theorem shiftToTargetExponent_of_exceeds (h : Exceeds m e k) :
    shiftToTargetExponent .binary64 m e .exact =
      ((⟨m, false, false⟩ : ExtendedMantissa) >>> k, e + k) := by
  have shift : (e + k - e).toNat = k := by omega
  rw [shiftToTargetExponent, h, shiftToExponent, shift]
  rfl

theorem roundWithAccuracy_zero {em : ExtendedMantissa} {e₁ : Int}
    (first : shiftToTargetExponent .binary64 m e .exact = (em, e₁)) (none : em.roundedMantissa = 0)
    (s : Sign) : roundWithAccuracy .binary64 s m e .exact = .zero s := by
  obtain ⟨rfl, rfl⟩ := Prod.ext_iff.1 first
  refine dif_pos (Nat.eq_zero_of_le_zero ?_)
  exact Nat.le_trans (Json.shiftRight_mantissa_le _ _) (Nat.le_of_eq none)

/-- Rounding yields zero, a mantissa that fits, or a carry. -/
theorem roundWithAccuracy_cases (h : Exceeds m e k) (positive : 0 < m) (s : Sign) :
    (rounded m k = 0 ∧ roundWithAccuracy .binary64 s m e .exact = .zero s) ∨
    ∃ n j some, roundWithAccuracy .binary64 s m e .exact = .finite s n j some ∧
      IsCanonical n j ∧ 0 < rounded m k ∧
      (j ≤ 971 ↔ e + k < 971 ∨ e + k = 971 ∧ rounded m k ≠ 2 ^ 53) := by
  have first := shiftToTargetExponent_of_exceeds h
  obtain none | some := Nat.eq_zero_or_pos (rounded m k)
  · exact .inl ⟨none, roundWithAccuracy_zero first none s⟩
  · refine .inr ?_
    obtain below | carry := Nat.lt_or_eq_of_le (rounded_le_carry (h.lt positive))
    · have canonical : IsCanonical (rounded m k) (e + k) := by
        have bits : (rounded m k).log2 < 53 := (Nat.log2_lt (Nat.ne_of_gt some)).2 below
        rw [isCanonical_iff]
        obtain least | ⟨above, low⟩ := h.least_or_le positive
        · omega
        · have full := log2_eq (le_rounded low) below
          omega
      have second := shiftToTargetExponent_zeros some canonical 0
      rw [Nat.pow_zero, Nat.mul_one, Nat.cast_zero, Int.sub_zero] at second
      refine ⟨_, _, some, roundWithAccuracy_eq first second some s, canonical, some, ?_⟩
      omega
    · have canonical : IsCanonical (2 ^ 52) (e + k + 1) := by
        rw [isCanonical_iff, Nat.log2_two_pow]
        obtain least | ⟨above, -⟩ := h.least_or_le positive <;> omega
      have second := shiftToTargetExponent_zeros (by decide) canonical 1
      rw [Nat.cast_one, Int.add_sub_cancel, show 2 ^ 52 * 2 ^ 1 = rounded m k by omega] at second
      refine ⟨_, _, by decide, roundWithAccuracy_eq first second (by decide) s, canonical, some, ?_⟩
      omega

end Rounding

theorem ofBitVec_toBitVec (s : Sign) : Sign.ofBitVec s.toBitVec = s := by cases s <;> rfl

theorem finite_congr {s : Sign} {m n : Nat} {e j : Int} {hm : 0 < m} {hn : 0 < n} (mantissa : m = n)
    (exponent : e = j) : UnpackedFloat.finite s m e hm = .finite s n j hn := by
  subst mantissa exponent
  rfl

theorem unpack_normal_components {m n : Nat} (low : 2 ^ 52 ≤ m) (high : m < 2 ^ 53) (some : 0 < n)
    (few : n < 2047) (s : Sign) (positive : 0 < m) :
    unpack .binary64 (packComponents .binary64 s (BitVec.ofNat 11 n) (BitVec.ofNat 52 m)) =
      .finite s m (n - 1075) positive := by
  have finite : BitVec.ofNat 11 n ≠ -1#_ := ofNat_ne (k := 2047) (by omega) (by decide) (by omega)
  have notZero : BitVec.ofNat 11 n ≠ 0#_ := ofNat_ne (k := 0) (by omega) (by decide) (by omega)
  have exponent : (BitVec.ofNat 11 n).toNat = n := Nat.mod_eq_of_lt (by omega)
  unfold unpack
  simp only [unpackExponent_packComponents, unpackMantissa_packComponents,
    unpackSign_packComponents, ofBitVec_toBitVec]
  rw [if_neg finite, if_neg notZero]
  refine finite_congr (toNat_append_one low high) ?_
  rw [exponent]
  rfl

theorem unpack_subnormal_components {m : Nat} (positive : 0 < m) (high : m < 2 ^ 52) (s : Sign) :
    unpack .binary64 (packComponents .binary64 s 0#_ (BitVec.ofNat 52 m)) =
      .finite s m (-1074) positive := by
  have mantissa : (BitVec.ofNat 52 m).toNat = m := Nat.mod_eq_of_lt high
  have notZero : BitVec.ofNat 52 m ≠ 0#_ := by
    intro zero
    rw [zero] at mantissa
    exact absurd mantissa (Nat.ne_of_lt positive)
  unfold unpack
  simp only [unpackExponent_packComponents, unpackMantissa_packComponents,
    unpackSign_packComponents, ofBitVec_toBitVec]
  rw [if_neg (by decide), if_pos True.intro, dif_neg notZero]
  exact finite_congr mantissa rfl

theorem unpack_pack_canonical {m : Nat} {e : Int} (canonical : IsCanonical m e) (s : Sign)
    (positive : 0 < m) : unpack .binary64 (pack .binary64 (.finite s m e positive)) =
      if e ≤ 971 then .finite s m e positive else .infinity s := by
  have packed : pack .binary64 (.finite s m e positive) =
      if 2048 ≤ (e + 1023 + 52).toNat + 1 then packedInfinity .binary64 s
      else if m.log2 + 1 = 53 then
        packComponents .binary64 s (BitVec.ofNat 11 (e + 1023 + 52).toNat) (BitVec.ofNat 52 m)
      else packComponents .binary64 s 0#_ (BitVec.ofNat _ m) := rfl
  have least := isCanonical_iff.1 canonical
  have size {k : Nat} : m < 2 ^ k ↔ m.log2 < k := (Nat.log2_lt (Nat.ne_of_gt positive)).symm
  rw [packed]
  by_cases fits : e ≤ 971
  · rw [if_pos fits, if_neg (by omega)]
    split
    · have low : 2 ^ 52 ≤ m := (Nat.le_log2 (Nat.ne_of_gt positive)).1 (by omega)
      rw [unpack_normal_components low (size.2 (by omega)) (by omega) (by omega) s positive]
      exact finite_congr rfl (by omega)
    · rw [unpack_subnormal_components positive (size.2 (by omega)) s]
      exact finite_congr rfl (by omega)
  · rw [if_neg fits, if_pos (by omega)]
    unfold unpack packedInfinity
    simp only [unpackExponent_packComponents, unpackMantissa_packComponents,
      unpackSign_packComponents, ofBitVec_toBitVec]
    rfl

/-- The greatest number that is rounded to zero, half the least one of double precision. -/
def underflow : ℚ := 2 ^ (-1075 : ℤ)

section Values
variable {m k : Nat} {e : Int}

theorem natCast_mul_zpow_le_iff {a b : Nat} {i : ℤ} :
    (a : ℚ) * 2 ^ i ≤ b * 2 ^ i ↔ a ≤ b := by
  rw [mul_le_mul_iff_left₀ (by positivity), Nat.cast_le]

theorem zpow_le_of_le (low : 2 ^ (52 + k) ≤ m) : (2 : ℚ) ^ (52 + (e + k)) ≤ m * 2 ^ e := by
  have low : ((2 ^ (52 + k) : ℕ) : ℚ) ≤ m := Nat.cast_le.2 low
  calc (2 : ℚ) ^ (52 + (e + k)) = ((2 ^ (52 + k) : ℕ) : ℚ) * 2 ^ e := by
        rw [show 52 + (e + k) = ((52 + k : ℕ) : ℤ) + e by omega, two_zpow_add, zpow_natCast]
        push_cast
        rfl
    _ ≤ m * 2 ^ e := mul_le_mul_of_nonneg_right low (by positivity)

theorem lt_zpow_of_lt (high : m < 2 ^ (53 + k)) : (m : ℚ) * 2 ^ e < 2 ^ (53 + (e + k)) := by
  have high : (m : ℚ) < ((2 ^ (53 + k) : ℕ) : ℚ) := Nat.cast_lt.2 high
  calc (m : ℚ) * 2 ^ e < ((2 ^ (53 + k) : ℕ) : ℚ) * 2 ^ e :=
        mul_lt_mul_of_pos_right high (by positivity)
    _ = 2 ^ (53 + (e + k)) := by
        rw [show 53 + (e + k) = ((53 + k : ℕ) : ℤ) + e by omega, two_zpow_add, zpow_natCast]
        push_cast
        rfl

theorem underflow_lt_iff (h : Exceeds m e k) (positive : 0 < m) :
    underflow < (m : ℚ) * 2 ^ e ↔ 0 < rounded m k := by
  rw [Nat.pos_iff_ne_zero, Ne, rounded_eq_zero_iff positive, ← not_le, not_iff_not]
  obtain least | ⟨above, low⟩ := h.least_or_le positive
  · have left : (m : ℚ) * 2 ^ e = ((2 * m : ℕ) : ℚ) * 2 ^ (e - 1) := by
      rw [show e = (e - 1) + 1 by omega, two_zpow_add, add_sub_cancel_right]
      push_cast
      ring
    have right : underflow = ((2 ^ k : ℕ) : ℚ) * 2 ^ (e - 1) := by
      rw [underflow, show (-1075 : ℤ) = k + (e - 1) by omega, two_zpow_add, zpow_natCast]
      push_cast
      rfl
    rw [left, right, natCast_mul_zpow_le_iff]
  · refine iff_of_false (not_le_of_gt ?_) ?_
    · refine lt_of_lt_of_le ?_ (zpow_le_of_le low)
      exact zpow_lt_zpow_right₀ (by norm_num) (by omega)
    · have power : 2 ^ k ≤ 2 ^ (52 + k) := Nat.pow_le_pow_right (by decide) (by omega)
      omega

theorem zpow_lt_overflow : (2 : ℚ) ^ (53 + 970 : ℤ) < overflow := by
  rw [overflow, two_zpow_add]
  exact mul_lt_mul_of_pos_right (by norm_num) (by positivity)

theorem lt_overflow_iff (h : Exceeds m e k) (positive : 0 < m) :
    (m : ℚ) * 2 ^ e < overflow ↔ e + k < 971 ∨ e + k = 971 ∧ rounded m k ≠ 2 ^ 53 := by
  have high := h.lt positive
  obtain small | last | large := Int.lt_trichotomy (e + k) 971
  · refine iff_of_true ?_ (.inl small)
    refine lt_of_lt_of_le (lt_zpow_of_lt high) (le_trans ?_ (le_of_lt zpow_lt_overflow))
    exact zpow_le_zpow_right₀ (by norm_num) (by omega)
  · have left : (m : ℚ) * 2 ^ e = ((2 * m : ℕ) : ℚ) * 2 ^ (e - 1) := by
      rw [show e = (e - 1) + 1 by omega, two_zpow_add, add_sub_cancel_right]
      push_cast
      ring
    have right : overflow = (((2 ^ 54 - 1) * 2 ^ k : ℕ) : ℚ) * 2 ^ (e - 1) := by
      have top : (2 : ℚ) ^ 970 = 2 ^ k * 2 ^ (e - 1) := by
        rw [← zpow_natCast, ← zpow_natCast, ← two_zpow_add]
        congr 1
        omega
      rw [overflow, top, Nat.cast_mul, Nat.cast_pow, Nat.cast_ofNat, mul_assoc]
      norm_num
    rw [← not_le, left, right, natCast_mul_zpow_le_iff, ← rounded_eq_carry_iff high]
    omega
  · refine iff_of_false (not_lt_of_ge ?_) (by omega)
    obtain least | ⟨-, low⟩ := h.least_or_le positive
    · omega
    · refine le_trans (le_of_lt overflow_lt) (le_trans ?_ (zpow_le_of_le low))
      exact zpow_le_zpow_right₀ (by norm_num) (by omega)

end Values

/-- The exact size of a finite number, without its sign. -/
def magnitude (x : Float) : ℚ :=
  match x.toModel.unpack with
  | .finite _ m e _ => m * 2 ^ e
  | _ => 0

def IsAbove : UnpackedFloat → Prop
  | .finite s _ _ _ => s = .positive
  | .infinity s => s = .positive
  | _ => False

theorem zero_lt_iff (x : Float) : 0.0 < x ↔ IsAbove x.toModel.unpack := by
  have zero : (0.0 : Float).toModel.unpack = .zero .positive := by
    with_unfolding_all rfl
  have compared : 0.0 < x ↔
      (((0.0 : Float).toModel.unpack).compare x.toModel.unpack == some .lt) = true := by
    change Float.lt 0.0 x = true ↔ _
    rw [Float.lt, decide_eq_true_iff]
    rfl
  rw [compared, zero]
  cases x.toModel.unpack with
  | notANumber => simp [IsAbove, UnpackedFloat.compare]
  | infinity s => cases s <;> simp [IsAbove, UnpackedFloat.compare]
  | zero s => simp [IsAbove, UnpackedFloat.compare]
  | finite s m e hm => cases s <;> simp [IsAbove, UnpackedFloat.compare]

theorem exists_finite {x : Float} (finite : x.isFinite = true) (above : 0.0 < x) :
    ∃ m e positive, x.toModel.unpack = .finite .positive m e positive ∧ IsCanonical m e ∧
      magnitude x = m * 2 ^ e := by
  have finite : x.toModel.unpack.isFinite = true := finite
  rw [zero_lt_iff] at above
  unfold magnitude
  cases unpacked : x.toModel.unpack with
  | notANumber | infinity =>
    rw [unpacked] at finite
    cases finite
  | zero =>
    rw [unpacked] at above
    exact above.elim
  | finite s m e positive =>
    rw [unpacked] at above
    obtain rfl : s = .positive := above
    exact ⟨m, e, positive, rfl, unpack_isCanonical unpacked, rfl⟩

theorem exists_exceeds {m m' : Nat} {e e' : Int} (positive : 0 < m) (positive' : 0 < m')
    (canonical : IsCanonical m e) (canonical' : IsCanonical m' e') :
    ∃ k, Exceeds (m * m') (e + e') k := by
  rw [isCanonical_iff] at canonical canonical'
  have least : m.log2 + m'.log2 ≤ (m * m').log2 := by
    rw [Nat.le_log2 (Nat.ne_of_gt (Nat.mul_pos positive positive')), Nat.pow_add]
    exact Nat.mul_le_mul (Nat.log2_self_le (Nat.ne_of_gt positive))
      (Nat.log2_self_le (Nat.ne_of_gt positive'))
  refine ⟨(max (((m * m').log2 : Int) + 1 + (e + e') - 53) (-1074) - (e + e')).toNat, ?_⟩
  rw [exceeds_iff]
  omega

/-- A product of two finite numbers above zero is finite, or above zero, if the exact product is
small or large enough to be rounded to such a number. -/
theorem mul_range {x y : Float} (finite : x.isFinite = true) (above : 0.0 < x)
    (finite' : y.isFinite = true) (above' : 0.0 < y) :
    ((x * y).isFinite = true ↔ magnitude x * magnitude y < overflow) ∧
      (0.0 < x * y ↔ underflow < magnitude x * magnitude y) := by
  obtain ⟨m, e, positive, unpacked, canonical, size⟩ := exists_finite finite above
  obtain ⟨m', e', positive', unpacked', canonical', size'⟩ := exists_finite finite' above'
  obtain ⟨k, exceeds⟩ := exists_exceeds positive positive' canonical canonical'
  have some : 0 < m * m' := Nat.mul_pos positive positive'
  have exact : magnitude x * magnitude y = (m * m' : ℕ) * 2 ^ (e + e') := by
    rw [size, size', two_zpow_add]
    push_cast
    ring
  have product : (x * y).toModel.unpack =
      unpack .binary64 (pack .binary64
        (roundWithAccuracy .binary64 .positive (m * m') (e + e') .exact)) := by
    change unpack .binary64 (pack .binary64
      (mul .binary64 x.toModel.unpack y.toModel.unpack)) = _
    rw [unpacked, unpacked']
    rfl
  rw [exact, lt_overflow_iff exceeds some, underflow_lt_iff exceeds some, zero_lt_iff]
  change ((x * y).toModel.unpack.isFinite = true ↔ _) ∧ _
  rw [product]
  obtain ⟨none, result⟩ | ⟨n, j, positive, result, canonical, nonzero, fits⟩ :=
    roundWithAccuracy_cases exceeds some .positive
  · have bound : (e + e' + k < 971 ∨ e + e' + k = 971 ∧ rounded (m * m') k ≠ 2 ^ 53) := by
      obtain least | ⟨above, low⟩ := exceeds.least_or_le some
      · omega
      · have := le_rounded low
        omega
    rw [result]
    exact ⟨iff_of_true (by decide) bound, iff_of_false id (Nat.not_lt_of_le (Nat.le_of_eq none))⟩
  · rw [result, unpack_pack_canonical canonical, ← fits]
    split
    · rename_i small
      exact ⟨iff_of_true rfl small, iff_of_true rfl nonzero⟩
    · rename_i large
      refine ⟨iff_of_false ?_ large, iff_of_true rfl nonzero⟩
      intro h
      cases h

end SearchQuery.Decimal
