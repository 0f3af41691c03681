import Mathlib
import SearchQuery.Decimal.Reading
import SearchQuery.Proofs.Json.Finite

/-!
# Signs of numbers

Products and quotients of numbers with a positive sign have one too, so the number nearest to a
decimal fraction is never below zero.
-/

set_option autoImplicit false
namespace SearchQuery.Decimal
open Float.Model (Format UnpackedFloat)
open Float.Model.UnpackedFloat

def IsPositive : UnpackedFloat → Prop
  | .infinity s => s = .positive
  | .finite s _ _ _ => s = .positive
  | .zero s => s = .positive
  | .notANumber => True

theorem roundWithAccuracy_isPositive (m : Nat) (e : Int) (accuracy : Accuracy) :
    IsPositive (roundWithAccuracy .binary64 .positive m e accuracy) := by
  unfold roundWithAccuracy
  dsimp only
  split
  · exact rfl
  · exact rfl

theorem mul_isPositive {f g : UnpackedFloat} (hf : IsPositive f) (hg : IsPositive g) :
    IsPositive (mul .binary64 f g) := by
  cases f with
  | notANumber => trivial
  | infinity s =>
    cases hf
    cases g with
    | notANumber => trivial
    | zero => trivial
    | infinity | finite => cases hg; rfl
  | zero s =>
    cases hf
    cases g with
    | notANumber => trivial
    | infinity => trivial
    | zero | finite => cases hg; rfl
  | finite s m e hm =>
    cases hf
    cases g with
    | notANumber => trivial
    | infinity | zero => cases hg; rfl
    | finite s' m' e' hm' =>
      cases hg
      exact roundWithAccuracy_isPositive (m * m') (e + e') .exact

theorem div_isPositive {f g : UnpackedFloat} (hf : IsPositive f) (hg : IsPositive g) :
    IsPositive (div .binary64 f g) := by
  cases f with
  | notANumber => trivial
  | infinity s =>
    cases hf
    cases g with
    | notANumber => trivial
    | infinity => trivial
    | zero | finite => cases hg; rfl
  | zero s =>
    cases hf
    cases g with
    | notANumber => trivial
    | zero => trivial
    | infinity | finite => cases hg; rfl
  | finite s m e hm =>
    cases hf
    cases g with
    | notANumber => trivial
    | infinity | zero => cases hg; rfl
    | finite s' m' e' hm' =>
      cases hg
      exact roundWithAccuracy_isPositive _ _ _

theorem unpackSign_pack {f : UnpackedFloat} (h : IsPositive f) :
    unpackSign (pack .binary64 f) = 0#1 := by
  cases f with
  | notANumber => exact unpackSign_packComponents _ _ _
  | infinity s => cases h; exact unpackSign_packComponents _ _ _
  | zero s => cases h; exact unpackSign_packComponents _ _ _
  | finite s m e hm =>
    cases h
    unfold pack
    dsimp only
    split
    · exact unpackSign_packComponents _ _ _
    · split
      · exact unpackSign_packComponents _ _ _
      · exact unpackSign_packComponents _ _ _

theorem unpack_isPositive {bits : BitVec Format.binary64.numBits} (h : unpackSign bits = 0#1) :
    IsPositive (unpack .binary64 bits) := by
  have sign : Sign.ofBitVec (unpackSign bits) = .positive := by
    rw [h]
    rfl
  unfold unpack
  dsimp only
  split
  · split
    · exact sign
    · trivial
  · split
    · split
      · exact sign
      · exact sign
    · exact sign

theorem round_isPositive (m : Nat) (e : Int) : IsPositive (round .binary64 .positive m e) :=
  roundWithAccuracy_isPositive _ _ _

theorem ofNat_isPositive (n : Nat) : IsPositive (.ofNat .binary64 n) := by
  unfold UnpackedFloat.ofNat UnpackedFloat.ofInt UnpackedFloat.normalize
  split
  · rename_i negative
    rw [Int.compare_eq_lt] at negative
    omega
  · exact rfl
  · exact round_isPositive _ _

theorem ofScientific_isPositive (m : Nat) (e : Int) :
    IsPositive (.ofScientific .binary64 m e) := by
  unfold UnpackedFloat.ofScientific
  split
  · exact rfl
  · split
    · exact rfl
    · split
      · exact rfl
      · split
        · exact mul_isPositive rfl rfl
        · exact div_isPositive rfl rfl

def HasPositiveSign (x : Float) : Prop :=
  @unpackSign .binary64 x.toModel.toBits.toBitVec = 0#1

theorem HasPositiveSign.isPositive {x : Float} (h : HasPositiveSign x) :
    IsPositive x.toModel.unpack := unpack_isPositive h

theorem powersOfTen_hasPositiveSign : ∀ e : Fin Float.exactlyRepresentablePowersOfTen.size,
    HasPositiveSign Float.exactlyRepresentablePowersOfTen[e] := by
  unfold HasPositiveSign
  decide

theorem ofScientific_hasPositiveSign (m : Nat) (negative : Bool) (e : Nat) :
    HasPositiveSign (Float.ofScientific m negative e) := by
  unfold Float.ofScientific
  split
  · rename_i small
    have whole : HasPositiveSign m.toUInt64.toFloat := unpackSign_pack (ofNat_isPositive _)
    have bound : e < Float.exactlyRepresentablePowersOfTen.size := Nat.lt_succ_of_le small.2
    have power := powersOfTen_hasPositiveSign ⟨e, bound⟩
    dsimp only
    split
    · exact unpackSign_pack (div_isPositive whole.isPositive power.isPositive)
    · exact unpackSign_pack (mul_isPositive whole.isPositive power.isPositive)
  · exact unpackSign_pack (ofScientific_isPositive m _)

theorem nearest_hasPositiveSign (coefficient : Nat) (exponent : Int) :
    HasPositiveSign (nearest coefficient exponent) := by
  unfold nearest
  dsimp only
  split
  · exact ofScientific_hasPositiveSign _ _ _
  · split
    · have one : HasPositiveSign 1.0 := ofScientific_hasPositiveSign _ _ _
      have zero : HasPositiveSign 0.0 := ofScientific_hasPositiveSign _ _ _
      exact unpackSign_pack (div_isPositive one.isPositive zero.isPositive)
    · exact ofScientific_hasPositiveSign _ _ _

theorem zero_le_of_hasPositiveSign {x : Float} (h : HasPositiveSign x)
    (finite : x.isFinite = true) : 0.0 ≤ x := by
  have zero : (0.0 : Float).toModel.unpack = .zero .positive := by
    with_unfolding_all rfl
  have finite : x.toModel.unpack.isFinite = true := finite
  have positive := h.isPositive
  change Float.le 0.0 x = true
  rw [Float.le, decide_eq_true_iff]
  change (((0.0 : Float).toModel.unpack).compare x.toModel.unpack).any (·.isLE) = true
  rw [zero]
  cases hx : x.toModel.unpack with
  | infinity => rw [hx] at finite; cases finite
  | notANumber => rw [hx] at finite; cases finite
  | zero s => rfl
  | finite s m e hm =>
    rw [hx] at positive
    cases positive
    rfl

end SearchQuery.Decimal
