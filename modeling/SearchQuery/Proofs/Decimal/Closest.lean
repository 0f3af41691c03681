import SearchQuery.Decimal.Shortest
import SearchQuery.Proofs.Decimal.Magnitude

/-!
# Shortest decimals are close

A decimal is found for every finite number but zero: the grid gets finer than the interval around
the number.  It lies in the interval, so it is at most half a unit above the number.
-/

set_option autoImplicit false
namespace SearchQuery.Decimal
open Float.Model (Format UnpackedFloat)
open Float.Model.UnpackedFloat

theorem pow_toNat {a : ℚ} (ha : a ≠ 0) (e : ℤ) : a ^ e.toNat = a ^ e * a ^ (-e).toNat := by
  rw [← zpow_natCast, ← zpow_natCast, ← zpow_add₀ ha]
  congr 1
  omega

theorem power_estimate {t : ℤ} (low : -1074 ≤ t) (high : t ≤ 1024) :
    (10 : ℚ) ^ (t * 30103 / 100000) ≤ 2 ^ (t + 18) := by
  generalize hq : t * 30103 / 100000 = q
  rcases Int.le_total 0 q with up | down
  · obtain ⟨n, rfl⟩ := Int.eq_ofNat_of_zero_le up
    obtain ⟨m, hm⟩ := Int.eq_ofNat_of_zero_le (show 0 ≤ t + 18 by omega)
    rw [hm, zpow_natCast, zpow_natCast]
    -- The estimates 10^3 ≤ 2^10 and, below, 2^33 ≤ 10^10 are close enough for the 18 bits to spare.
    have cubes : ((10 : ℚ) ^ n) ^ 3 ≤ (2 ^ m) ^ 3 := by
      calc ((10 : ℚ) ^ n) ^ 3 = (10 ^ 3) ^ n := by rw [← pow_mul, ← pow_mul, Nat.mul_comm]
        _ ≤ (2 ^ 10) ^ n := pow_le_pow_left₀ (by norm_num) (by norm_num) n
        _ = 2 ^ (10 * n) := (pow_mul 2 10 n).symm
        _ ≤ 2 ^ (m * 3) := pow_le_pow_right₀ (by norm_num) (by omega)
        _ = (2 ^ m) ^ 3 := pow_mul 2 m 3
    exact le_of_pow_le_pow_left₀ (by decide) (by positivity) cubes
  · obtain ⟨n, rfl⟩ := Int.exists_eq_neg_ofNat down
    rcases Int.le_total 0 (t + 18) with flat | steep
    · calc (10 : ℚ) ^ (-(n : ℤ)) ≤ 10 ^ (0 : ℤ) :=
            zpow_le_zpow_right₀ (by norm_num) (by omega)
        _ = 2 ^ (0 : ℤ) := by rw [zpow_zero, zpow_zero]
        _ ≤ 2 ^ (t + 18) := zpow_le_zpow_right₀ (by norm_num) flat
    · obtain ⟨m, hm⟩ := Int.exists_eq_neg_ofNat steep
      rw [hm, zpow_neg, zpow_neg, zpow_natCast, zpow_natCast]
      refine inv_anti₀ (by positivity) ?_
      have tenths : ((2 : ℚ) ^ m) ^ 10 ≤ (10 ^ n) ^ 10 := by
        calc ((2 : ℚ) ^ m) ^ 10 = 2 ^ (m * 10) := (pow_mul 2 m 10).symm
          _ ≤ 2 ^ (33 * n) := pow_le_pow_right₀ (by norm_num) (by omega)
          _ = (2 ^ 33) ^ n := pow_mul 2 33 n
          _ ≤ (10 ^ 10) ^ n := pow_le_pow_left₀ (by norm_num) (by norm_num) n
          _ = (10 ^ n) ^ 10 := by rw [← pow_mul, ← pow_mul, Nat.mul_comm]
      exact le_of_pow_le_pow_left₀ (by decide) (by positivity) tenths

/-- A positive decimal no more than half a unit above the number. -/
structure Digits.IsClose (d : Digits) (b : Binary) : Prop where
  positive : 0 < d.coefficient
  bounded : (d.coefficient : ℚ) * 10 ^ d.exponent ≤ (b.significand + 1 / 2) * 2 ^ b.exponent

section Grid
variable {tie : Tie} {b : Binary} {k : Int}

theorem grid_bounded {c : Nat}
    (h : c * (4 * (Nat.pow 2 (-b.exponent).toNat * Nat.pow 10 k.toNat)) ≤
      4 * b.significand * (Nat.pow 2 b.exponent.toNat * Nat.pow 10 (-k).toNat) +
        2 * (Nat.pow 2 b.exponent.toNat * Nat.pow 10 (-k).toNat)) :
    (c : ℚ) * 10 ^ k ≤ (b.significand + 1 / 2) * 2 ^ b.exponent := by
  simp only [Nat.pow_eq] at h
  have units : (c : ℚ) * (4 * (2 ^ (-b.exponent).toNat * 10 ^ k.toNat)) ≤
      4 * b.significand * (2 ^ b.exponent.toNat * 10 ^ (-k).toNat) +
        2 * (2 ^ b.exponent.toNat * 10 ^ (-k).toNat) := by exact_mod_cast h
  rw [pow_toNat (by norm_num) k, pow_toNat (by norm_num) b.exponent] at units
  have unit : (0 : ℚ) < 4 * (2 ^ (-b.exponent).toNat * 10 ^ (-k).toNat) := by positivity
  refine le_of_mul_le_mul_right ?_ unit
  linarith

theorem onGrid_isClose {d : Digits} (h : onGrid tie b k = some d) : d.IsClose b := by
  unfold onGrid at h
  extract_lets widen grid value least greatest closed inside c below above rest takeAbove at h
  have upper (n : Nat) (h : inside n = true) : n ≤ greatest := by
    unfold inside at h
    split at h
    · rw [Bool.and_eq_true, decide_eq_true_iff, decide_eq_true_iff] at h
      exact h.2
    · rw [Bool.and_eq_true, decide_eq_true_iff, decide_eq_true_iff] at h
      exact Nat.le_of_lt h.2
  have close (n : Nat) (some : 0 < n) (h : inside (n * grid) = true) : Digits.IsClose ⟨n, k⟩ b :=
    ⟨some, grid_bounded (upper _ h)⟩
  have lower (h : below = true) : Digits.IsClose ⟨c, k⟩ b := by
    obtain ⟨some, h⟩ := Bool.and_eq_true_iff.1 h
    exact close c (Nat.pos_of_ne_zero (by simpa using some)) h
  have higher (h : above = true) : Digits.IsClose ⟨c + 1, k⟩ b := close (c + 1) (Nat.succ_pos c) h
  split at h
  · rename_i both
    obtain ⟨hbelow, habove⟩ := Bool.and_eq_true_iff.1 both
    cases h
    split
    · exact higher habove
    · exact lower hbelow
  · split at h
    · rename_i hbelow
      cases h
      exact lower hbelow
    · split at h
      · rename_i habove
        cases h
        exact higher habove
      · cases h

/-- On a grid finer than the interval the decimal below the number lies inside. -/
theorem onGrid_ne_none (some : 0 < b.significand)
    (fine : 4 * (Nat.pow 2 (-b.exponent).toNat * Nat.pow 10 k.toNat) ≤
      Nat.pow 2 b.exponent.toNat * Nat.pow 10 (-k).toNat) : onGrid tie b k ≠ none := by
  unfold onGrid
  extract_lets widen grid value least greatest closed inside c below above rest takeAbove
  have positive : 0 < grid :=
    Nat.mul_pos (by decide) (Nat.mul_pos (Nat.pow_pos (by decide)) (Nat.pow_pos (by decide)))
  have fine : grid ≤ widen := fine
  have room : widen ≤ value := by
    have four : widen * 1 ≤ widen * (4 * b.significand) := Nat.mul_le_mul_left _ (by omega)
    rw [Nat.mul_one, Nat.mul_comm] at four
    exact four
  have split := Nat.div_add_mod value grid
  have remainder : value % grid < grid := Nat.mod_lt _ positive
  have floor : c * grid + value % grid = value := by rw [Nat.mul_comm]; exact split
  -- Rounding down to the grid loses less than the interval has below the number.
  have reach : least ≤ value - widen := by
    have : widen ≤ (if b.low then 1 else 2) * widen :=
      Nat.le_mul_of_pos_left _ (by split <;> decide)
    exact Nat.sub_le_sub_left this _
  have some : c ≠ 0 := by
    have : 0 < c := Nat.div_pos (Nat.le_trans fine room) positive
    omega
  have hbelow : below = true := by
    have inner : inside (c * grid) = true := by
      unfold inside
      have low : least < c * grid := by omega
      have high : c * grid < greatest := by
        have : 0 < widen := Nat.lt_of_lt_of_le positive fine
        change c * grid < value + 2 * widen
        omega
      split
      · simp [Nat.le_of_lt low, Nat.le_of_lt high]
      · simp [low, high]
    unfold below
    rw [inner, Bool.and_true]
    simpa using some
  rw [hbelow]
  split
  · simp
  · simp

end Grid

theorem search_of_onGrid {tie : Tie} {b : Binary} {steps : Nat} {k : Int} {j : Nat}
    (within : j < steps) (found : onGrid tie b (k - j) ≠ none) :
    ∃ k', onGrid tie b k' = some (search tie b steps k) := by
  -- On the steps: behind a grid without a decimal the one that has some is a step nearer.
  induction steps generalizing k j with
  | zero => omega
  | succ steps ih =>
    rw [search]
    cases here : onGrid tie b k with
    | some d => exact ⟨k, here⟩
    | none =>
      cases j with
      | zero => exact absurd here (by simpa using found)
      | succ j =>
        refine ih (j := j) (by omega) ?_
        have same : k - 1 - (j : Int) = k - (j + 1 : Nat) := by omega
        rwa [same]

structure Binary.InRange (b : Binary) : Prop where
  positive : 0 < b.significand
  small : b.significand < 2 ^ 53
  low : -1074 ≤ b.exponent
  high : b.exponent ≤ 971

theorem fine_topGrid {b : Binary} (h : b.InRange) :
    4 * (Nat.pow 2 (-b.exponent).toNat * Nat.pow 10 (topGrid b - 23).toNat) ≤
      Nat.pow 2 b.exponent.toNat * Nat.pow 10 (-(topGrid b - 23)).toNat := by
  have positive : b.significand ≠ 0 := Nat.ne_of_gt h.positive
  have digits : b.significand.log2 < 53 := (Nat.log2_lt positive).2 h.small
  have low := h.low
  have high := h.high
  let t : Int := (b.significand.log2 : Int) + 1 + b.exponent
  have estimate := power_estimate (t := t) (by omega) (by omega)
  let q : Int := t * 30103 / 100000
  have last : topGrid b - 23 = q + -22 := by
    change q + 1 - 23 = q + -22
    omega
  have unit : (4 : ℚ) * 10 ^ (q + -22) ≤ 2 ^ b.exponent := by
    have shift : (2 : ℚ) ^ (t + 18) ≤ 2 ^ (b.exponent + 71) :=
      zpow_le_zpow_right₀ (by norm_num) (by omega)
    rw [zpow_add₀ (by norm_num)]
    rw [zpow_add₀ (by norm_num) b.exponent] at shift
    have estimate : (10 : ℚ) ^ q ≤ 2 ^ b.exponent * 2 ^ (71 : ℤ) := le_trans estimate shift
    have pos : (0 : ℚ) < 2 ^ b.exponent := by positivity
    have rest : (10 : ℚ) ^ (-22 : ℤ) = 1 / 10 ^ 22 := by norm_num
    have powers : (2 : ℚ) ^ (71 : ℤ) = 2361183241434822606848 := by norm_num
    rw [rest]
    rw [powers] at estimate
    linarith
  rw [last]
  simp only [Nat.pow_eq]
  have scaled : (4 * (2 ^ (-b.exponent).toNat * 10 ^ (q + -22).toNat) : ℚ) ≤
      2 ^ b.exponent.toNat * 10 ^ (-(q + -22)).toNat := by
    rw [pow_toNat (by norm_num) (q + -22), pow_toNat (by norm_num) b.exponent]
    have common : (0 : ℚ) < 2 ^ (-b.exponent).toNat * 10 ^ (-(q + -22)).toNat := by positivity
    have := mul_le_mul_of_nonneg_right unit (le_of_lt common)
    linarith
  exact_mod_cast scaled

theorem search_isClose {b : Binary} (h : b.InRange) (tie : Tie) :
    (search tie b 24 (topGrid b)).IsClose b := by
  obtain ⟨k, found⟩ := search_of_onGrid (k := topGrid b) (show 23 < 24 by decide)
    (onGrid_ne_none h.positive (fine_topGrid h))
  exact onGrid_isClose found

theorem toNat_unpackMantissa (bits : BitVec Format.binary64.numBits) :
    (unpackMantissa bits).toNat = bits.toNat % 0x10000000000000 := by
  rw [unpackMantissa, BitVec.toNat_cast, BitVec.extractLsb_toNat, Nat.shiftRight_zero]
  rfl

theorem toNat_unpackExponent (bits : BitVec Format.binary64.numBits) :
    (unpackExponent bits).toNat = bits.toNat >>> 52 % 2048 := by
  rw [unpackExponent, BitVec.toNat_cast, BitVec.extractLsb_toNat]
  rfl

theorem inRange_of_parts {fraction biased : Nat} {low : Bool} (few : fraction < 2 ^ 52)
    (finite : biased < 2047) (some : biased = 0 → fraction ≠ 0) :
    Binary.InRange (if biased = 0 then ⟨fraction, -1074, false⟩
      else ⟨0x10000000000000 + fraction, Int.ofNat biased - 1075, low⟩) := by
  split
  · rename_i subnormal
    refine ⟨Nat.pos_of_ne_zero (some subnormal), ?_, ?_, ?_⟩
    · exact Nat.lt_trans few (by decide)
    · exact Int.le_refl _
    · change (-1074 : Int) ≤ 971
      decide
  · rename_i normal
    refine ⟨?_, ?_, ?_, ?_⟩
    · change 0 < 0x10000000000000 + fraction
      omega
    · change 0x10000000000000 + fraction < 2 ^ 53
      omega
    · change -1074 ≤ (biased : Int) - 1075
      omega
    · change (biased : Int) - 1075 ≤ 971
      omega

theorem ofFloat_inRange {x : Float} (finite : x.isFinite = true) (some : (x == 0.0) = false) :
    (Binary.ofFloat x).InRange := by
  let bits : BitVec Format.binary64.numBits := x.toModel.toBits.toBitVec
  have mantissa := toNat_unpackMantissa bits
  have exponent := toNat_unpackExponent bits
  refine inRange_of_parts (Nat.mod_lt _ (by decide)) ?_ fun subnormal zero => ?_
  · have biased : bits.toNat >>> 52 % 2048 < 2048 := Nat.mod_lt _ (by decide)
    have notFull : bits.toNat >>> 52 % 2048 ≠ 2047 := by
      intro full
      exact Json.unpackExponent_ne_of_isFinite finite
        (BitVec.eq_of_toNat_eq (exponent.trans full))
    exact Nat.lt_of_le_of_ne (Nat.le_of_lt_succ biased) notFull
  · -- With all its digits zero it would be one of the zeros.
    have noExponent : unpackExponent bits = 0#_ :=
      BitVec.eq_of_toNat_eq (exponent.trans subnormal)
    have noMantissa : unpackMantissa bits = 0#_ := BitVec.eq_of_toNat_eq (mantissa.trans zero)
    have isZero : ∃ s, x.toModel.unpack = .zero s := by
      change ∃ s, unpack .binary64 bits = .zero s
      unfold unpack
      dsimp only
      rw [if_neg (by rw [noExponent]; decide), if_pos noExponent, dif_pos noMantissa]
      exact ⟨_, rfl⟩
    obtain ⟨s, isZero⟩ := isZero
    have zero : (0.0 : Float).toModel.unpack = .zero .positive := by
      with_unfolding_all rfl
    have same : (x == 0.0) = UnpackedFloat.beq x.toModel.unpack (0.0 : Float).toModel.unpack := rfl
    rw [same, isZero, zero] at some
    cases some

theorem shortest_isClose {x : Float} (finite : x.isFinite = true) (some : (x == 0.0) = false)
    (tie : Tie) : (shortest tie x).IsClose (Binary.ofFloat x) :=
  search_isClose (ofFloat_inRange finite some) tie

end SearchQuery.Decimal
