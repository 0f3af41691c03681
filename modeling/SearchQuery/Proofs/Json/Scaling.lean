import SearchQuery.Json.Reader
import SearchQuery.Proofs.Decimal.Closest

/-!
# Scaling the digits of a number

A document gives a number by its digits and a power of ten.  The reader multiplies the two in double
precision, and only a product beyond the greatest number is out of range.  The shortest decimal of a
finite number never is: for all but the two greatest there is room for the errors of the
multiplication, and for those two it turns out well.
-/

set_option autoImplicit false
namespace SearchQuery.Json
open Decimal (Binary Digits overflow slack search topGrid)

section Gather

def appendDigits (n : Nat) (digits : List Nat) : Nat := digits.foldl (fun n d => 10 * n + d) n

theorem le_appendDigits (n : Nat) (digits : List Nat) :
    n * 10 ^ digits.length ≤ appendDigits n digits := by
  induction digits generalizing n with
  | nil => exact Nat.le_of_eq (Nat.mul_one n)
  | cons d digits ih =>
    calc n * 10 ^ (digits.length + 1) = 10 * n * 10 ^ digits.length := by ring
      _ ≤ (10 * n + d) * 10 ^ digits.length := Nat.mul_le_mul_right _ (Nat.le_add_right _ d)
      _ ≤ appendDigits (10 * n + d) digits := ih _

theorem gather_dropping (n dropped : Nat) (digits : List Nat) :
    digits.foldl (fun (n, dropped) d =>
      if dropped = 0 ∧ 10 * n + d < 0x10000000000000000 then (10 * n + d, 0) else (n, dropped + 1))
      (n, dropped + 1) = (n, dropped + 1 + digits.length) := by
  induction digits generalizing dropped with
  | nil => rfl
  | cons d digits ih =>
    rw [List.foldl_cons]
    dsimp only
    rw [if_neg fun h => Nat.succ_ne_zero dropped h.1, ih, List.length_cons]
    congr 1
    omega

theorem gather_nil (n : Nat) : gather n [] = (n, 0) := rfl

theorem gather_cons (n d : Nat) (digits : List Nat) :
    gather n (d :: digits) = if 10 * n + d < 0x10000000000000000 then gather (10 * n + d) digits
      else (n, digits.length + 1) := by
  unfold gather
  rw [List.foldl_cons]
  dsimp only
  by_cases fits : 10 * n + d < 0x10000000000000000
  · rw [if_pos ⟨rfl, fits⟩, if_pos fits]
  · rw [if_neg fun h => fits h.2, if_neg fits]
    exact (gather_dropping n 0 digits).trans (by rw [Nat.zero_add, Nat.add_comm])

/-- What is gathered has at most 64 bits and, with zeros for the digits left out, is no more than
what the digits denote. -/
theorem gather_bounds {n : Nat} (hn : n < 2 ^ 64) (digits : List Nat) :
    (gather n digits).1 < 2 ^ 64 ∧ (gather n digits).2 ≤ digits.length ∧
      (gather n digits).1 * 10 ^ (gather n digits).2 ≤ appendDigits n digits := by
  induction digits generalizing n with
  | nil => exact ⟨hn, Nat.le_refl 0, Nat.le_of_eq (Nat.mul_one n)⟩
  | cons d digits ih =>
    rw [gather_cons]
    split
    · rename_i fits
      obtain ⟨small, few, below⟩ := ih (n := 10 * n + d) fits
      exact ⟨small, Nat.le_succ_of_le few, below⟩
    · exact ⟨hn, Nat.le_refl _, le_appendDigits n (d :: digits)⟩

theorem gather_of_lt {n : Nat} {digits : List Nat} (h : appendDigits n digits < 2 ^ 64) :
    gather n digits = (appendDigits n digits, 0) := by
  induction digits generalizing n with
  | nil => rfl
  | cons d digits ih =>
    have least := le_appendDigits (10 * n + d) digits
    have power : 0 < 10 ^ digits.length := Nat.pow_pos (by decide)
    have fits : 10 * n + d < 0x10000000000000000 :=
      Nat.lt_of_le_of_lt (Nat.le_trans (Nat.le_mul_of_pos_right _ power) least) h
    rw [gather_cons, if_pos fits]
    exact ih h

end Gather

theorem scale_of_neg (steps : Nat) (x : Float) {e : Int} (h : e < 0) :
    ∃ y, scale steps x e = some y := by
  induction steps generalizing x e with
  | zero => exact ⟨x, rfl⟩
  | succ steps ih =>
    rw [scale]
    split
    · rw [if_neg (by omega)]
      exact ⟨_, rfl⟩
    · split
      · exact ⟨_, rfl⟩
      · rw [if_neg (by omega)]
        exact ih _ (by omega)

theorem scale_ofNat {n e : Nat} (hn : n < 2 ^ 64) (bounded : (n : ℚ) * 10 ^ e * slack < overflow) :
    ∃ y, scale 8 (Float.ofNat n) e = some y := by
  have up : (0 : Int) ≤ e := Int.natCast_nonneg e
  rw [scale, Int.natAbs_natCast, if_pos up]
  split
  · rename_i small
    have product := Decimal.isInf_of_isFinite (Decimal.ofNat_mul_power_isFinite hn small bounded)
    rw [product]
    exact ⟨_, rfl⟩
  · -- Beyond the table any number but zero would be above the bound.
    rename_i large
    have none : n = 0 := by
      by_contra some
      have one : (1 : ℚ) ≤ n := by exact_mod_cast Nat.pos_of_ne_zero some
      have power : 2 ^ 1024 ≤ 10 ^ e := by
        calc 2 ^ 1024 ≤ 10 ^ 309 := by decide +kernel
          _ ≤ 10 ^ e := Nat.pow_le_pow_right (by decide) (by omega)
      have power : (2 : ℚ) ^ (1024 : ℤ) ≤ 10 ^ e := by exact_mod_cast power
      have added : (1 : ℚ) ≤ slack := by norm_num [slack]
      have least : (2 : ℚ) ^ (1024 : ℤ) ≤ n * 10 ^ e * slack := by
        calc (2 : ℚ) ^ (1024 : ℤ) ≤ 10 ^ e := power
          _ = 1 * 10 ^ e * 1 := by ring
          _ ≤ n * 10 ^ e * slack := by gcongr
      exact lt_irrefl _ (lt_trans (lt_of_le_of_lt least bounded) Decimal.overflow_lt)
    have zero : (Float.ofNat 0 == 0.0) = true := by
      with_unfolding_all rfl
    rw [none, zero, if_pos rfl]
    exact ⟨_, rfl⟩

theorem scale_small {n : Nat} {e : Int} (hn : n < 2 ^ 64) (he : e ≤ 288) :
    ∃ y, scale 8 (Float.ofNat n) e = some y := by
  rcases Int.lt_or_le e 0 with down | up
  · exact scale_of_neg 8 _ down
  · obtain ⟨k, rfl⟩ := Int.eq_ofNat_of_zero_le up
    have few : k ≤ 288 := by omega
    have value : (0 : ℚ) ≤ n * 10 ^ k := by positivity
    have product : n * 10 ^ k * 2 < (2 ^ 54 - 1) * 2 ^ 970 := by
      calc n * 10 ^ k * 2 ≤ 2 ^ 64 * 10 ^ 288 * 2 := by gcongr; decide
        _ < (2 ^ 54 - 1) * 2 ^ 970 := by decide +kernel
    have product := Decimal.cast_lt_overflow product
    push_cast at product
    have added : slack ≤ 2 := by norm_num [slack]
    have added : (n : ℚ) * 10 ^ k * slack ≤ n * 10 ^ k * 2 :=
      mul_le_mul_of_nonneg_left added value
    exact scale_ofNat hn (added.trans_lt product)

/-- All but the two greatest numbers leave room for the errors of a multiplication. -/
theorem lt_overflow_of_inRange {b : Binary} (h : b.InRange)
    (other : b.exponent = 971 → b.significand ≤ 2 ^ 53 - 3) :
    ((b.significand : ℚ) + 1 / 2) * 2 ^ b.exponent * slack < overflow := by
  have pos : (0 : ℚ) < 2 ^ 970 := by positivity
  have added : (0 : ℚ) ≤ slack := by norm_num [slack]
  have bounded : ((b.significand : ℚ) + 1 / 2) * 2 ^ b.exponent ≤ (2 ^ 54 - 5) * 2 ^ 970 := by
    rcases Int.lt_or_le b.exponent 971 with below | top
    · have power : (2 : ℚ) ^ b.exponent ≤ 2 ^ 970 := by
        rw [← zpow_natCast]
        exact zpow_le_zpow_right₀ (by norm_num) (Int.le_of_lt_add_one below)
      have significand : (b.significand : ℚ) ≤ 2 ^ 53 := by
        exact_mod_cast Nat.le_of_lt h.small
      have significand : (b.significand : ℚ) + 1 / 2 ≤ 2 ^ 54 - 5 := by linarith
      exact mul_le_mul significand power (by positivity) (by norm_num)
    · have last : b.exponent = 971 := Int.le_antisymm h.high top
      have significand : b.significand + 3 ≤ 2 ^ 53 := Nat.add_le_of_le_sub (by decide) (other last)
      have significand : (b.significand : ℚ) + 3 ≤ 2 ^ 53 := by exact_mod_cast significand
      have significand : ((b.significand : ℚ) + 1 / 2) * 2 ≤ 2 ^ 54 - 5 := by linarith
      have power : (2 : ℚ) ^ b.exponent = 2 * 2 ^ 970 := by
        rw [last]
        exact pow_succ' (2 : ℚ) 970
      rw [power, ← mul_assoc]
      exact mul_le_mul_of_nonneg_right significand (le_of_lt pos)
  refine lt_of_le_of_lt (mul_le_mul_of_nonneg_right bounded added) ?_
  rw [overflow, mul_right_comm]
  exact mul_lt_mul_of_pos_right (by norm_num [slack]) pos

theorem scale_greatest : ∀ low : Bool, ∀ i : Fin 2,
    let d := search .even ⟨2 ^ 53 - 1 - i, 971, low⟩ 24 (topGrid ⟨2 ^ 53 - 1 - i, 971, low⟩)
    d.coefficient < 2 ^ 64 ∧ (scale 8 (Float.ofNat d.coefficient) d.exponent).isSome = true := by
  decide +kernel

/-- The digits that are gathered of a shortest decimal are scaled without overflow. -/
theorem scale_search {b : Binary} (h : b.InRange) {n dropped : Nat} (hn : n < 2 ^ 64)
    (below : n * 10 ^ dropped ≤ (search .even b 24 (topGrid b)).coefficient)
    (exact : (search .even b 24 (topGrid b)).coefficient < 2 ^ 64 →
      n = (search .even b 24 (topGrid b)).coefficient ∧ dropped = 0) :
    ∃ y, scale 8 (Float.ofNat n) ((search .even b 24 (topGrid b)).exponent + dropped) = some y := by
  have close := Decimal.search_isClose h .even
  -- The bound of a close decimal does not do for the two greatest numbers: these are computed.
  by_cases top : b.exponent = 971 ∧ 2 ^ 53 - 3 < b.significand
  · obtain ⟨significand, exponent, low⟩ := b
    obtain ⟨rfl, top⟩ := top
    have small : significand < 2 ^ 53 := h.small
    obtain ⟨i, rfl⟩ : ∃ i : Fin 2, significand = 2 ^ 53 - 1 - i := by
      change 2 ^ 53 - 3 < significand at top
      exact ⟨⟨2 ^ 53 - 1 - significand, by omega⟩, by dsimp only; omega⟩
    obtain ⟨fits, some⟩ := scale_greatest low i
    obtain ⟨rfl, rfl⟩ := exact fits
    rw [Nat.cast_zero, add_zero]
    exact Option.isSome_iff_exists.1 some
  · generalize search .even b 24 (topGrid b) = d at below close ⊢
    rcases Int.lt_or_le (d.exponent + dropped) 0 with down | up
    · exact scale_of_neg 8 _ down
    · obtain ⟨e, he⟩ := Int.eq_ofNat_of_zero_le up
      rw [he]
      refine scale_ofNat hn ?_
      have shift : (10 : ℚ) ^ e = 10 ^ d.exponent * 10 ^ dropped := by
        rw [← zpow_natCast, ← zpow_natCast, ← zpow_add₀ (by norm_num), he]
      have below : (n : ℚ) * 10 ^ dropped ≤ d.coefficient := by exact_mod_cast below
      have bounded : (n : ℚ) * 10 ^ e ≤ (b.significand + 1 / 2) * 2 ^ b.exponent := by
        calc (n : ℚ) * 10 ^ e = n * 10 ^ dropped * 10 ^ d.exponent := by rw [shift]; ring
          _ ≤ d.coefficient * 10 ^ d.exponent := by gcongr
          _ ≤ (b.significand + 1 / 2) * 2 ^ b.exponent := close.bounded
      have room := lt_overflow_of_inRange h fun last => by
        by_contra above
        exact top ⟨last, Nat.lt_of_not_le above⟩
      refine lt_of_le_of_lt ?_ room
      have : (0 : ℚ) ≤ slack := by norm_num [slack]
      gcongr

end SearchQuery.Json
