import SearchQuery.Proofs.Network.Addresses
import SearchQuery.Proofs.Outcome
import SearchQuery.Query.Validation

/-!
# Blocks of addresses

The block of an address has the bits of the address up to its length and zeros behind them, at every
length from none to all of the bits.  So blocks of one length are the same exactly for addresses
that agree so far, shorter blocks may be taken of blocks, and a block is the block of its own text
(`Network.blockOf_text`).
-/

set_option autoImplicit false
namespace SearchQuery

namespace Network

def Address.bit (i : Nat) : Address → Bool
  | .v4 bits => bits.getMsbD i
  | .v6 bits => bits.getMsbD i

theorem getMsbD_keepFirst {w n : Nat} (within : n ≤ w) (bits : BitVec w) (i : Nat) :
    (keepFirst n bits).getMsbD i = (decide (i < n) && bits.getMsbD i) := by
  have bound : i + (w - n) < w ↔ i < n := by omega
  simp [keepFirst, bound, Bool.and_comm]

namespace Address

@[simp] theorem width_mask (n : Nat) (a : Address) : (a.mask n).width = a.width := by
  cases a <;> rfl

theorem bit_mask {n : Nat} {a : Address} (within : n ≤ a.width) (i : Nat) :
    (a.mask n).bit i = (decide (i < n) && a.bit i) := by
  cases a <;> exact getMsbD_keepFirst within _ i

theorem ext_bit {a b : Address} (size : a.width = b.width) (same : ∀ i, a.bit i = b.bit i) :
    a = b := by
  cases a with
  | v4 x =>
    cases b with
    | v4 y => exact congrArg v4 (BitVec.eq_of_getMsbD_eq fun i _ => same i)
    | v6 y => simp [width] at size
  | v6 x =>
    cases b with
    | v4 y => simp [width] at size
    | v6 y => exact congrArg v6 (BitVec.eq_of_getMsbD_eq fun i _ => same i)

theorem mask_eq_mask {n : Nat} {a b : Address} (within : n ≤ a.width) (size : b.width = a.width) :
    b.mask n = a.mask n ↔ ∀ i < n, b.bit i = a.bit i := by
  have within' : n ≤ b.width := by omega
  constructor
  · intro h i hi
    have bit := congrArg (bit i) h
    simpa [bit_mask within, bit_mask within', hi] using bit
  · intro h
    apply ext_bit (by simpa using size)
    intro i
    rw [bit_mask within, bit_mask within']
    by_cases hi : i < n <;> simp [hi, h]

theorem mask_mask {m n : Nat} {a : Address} (shorter : m ≤ n) (within : n ≤ a.width) :
    (a.mask n).mask m = a.mask m := by
  rw [mask_eq_mask (by omega) (width_mask n a)]
  intro i hi
  simp [bit_mask within, show i < n by omega]

end Address

theorem Address.IsAddressChar.plain {c : Char} (h : IsAddressChar c) :
    isBlank c = false ∧ (c != '/') = true := by
  have digits : ∀ d < 16, isBlank (Nat.digitChar d) = false ∧ (Nat.digitChar d != '/') = true := by
    decide
  rcases h with ⟨d, small, rfl⟩ | rfl | rfl
  · exact digits d small
  · decide
  · decide

theorem byte_text {n : Nat} (small : n < 256) : byte? (Nat.toDigits 10 n) = some n := by
  have noSign : ∀ r, Nat.toDigits 10 n ≠ '+' :: r := by
    intro r h
    exact absurd (Address.isDigit_of_mem (n := n) (c := '+') (by simp [h])) (by decide)
  have size : ¬ 255 < n := by omega
  have all : (Nat.toDigits 10 n).all Decimal.isDigit = true :=
    List.all_eq_true.2 fun _ => Address.isDigit_of_mem
  unfold byte?
  split
  · rename_i r h
    exact absurd h (noSign r)
  · simp [Address.digitsValue_digits, size, all, Nat.toDigits_ne_nil]

namespace Block

theorem read_text {a : Address} {n : Nat} (within : n ≤ a.width) :
    Block.read (a.text ++ "/" ++ toString n) = .ok ⟨a.mask n, n⟩ := by
  have small : n < 256 := by cases a <;> simp only [Address.width] at within <;> omega
  have chars : (a.text ++ "/" ++ toString n).toList =
      a.text.toList ++ '/' :: Nat.toDigits 10 n := by
    simp [Nat.repr_eq_ofList_toDigits]
  have front : ∀ c ∈ a.text.toList, (c != '/') = true := fun c hc =>
    (Address.isAddressChar_text hc).plain.2
  have dark : ∀ c ∈ a.text.toList ++ '/' :: Nat.toDigits 10 n, isBlank c = false := by
    intro c hc
    simp only [List.mem_append, List.mem_cons] at hc
    rcases hc with hc | rfl | hc
    · exact (Address.isAddressChar_text hc).plain.1
    · decide
    · exact (Address.isAddressChar_digits (by decide) (by decide) hc).plain.1
  have taken : (a.text.toList ++ '/' :: Nat.toDigits 10 n).takeWhile (· != '/') =
      a.text.toList := takeWhile_append_stop front (by simp)
  have left : (a.text.toList ++ '/' :: Nat.toDigits 10 n).dropWhile (· != '/') =
      '/' :: Nat.toDigits 10 n := dropWhile_append_stop front (by simp)
  unfold Block.read
  dsimp only
  rw [chars, trimChars_eq_self dark, taken, left, Address.read_text]
  dsimp only
  rw [byte_text small]
  exact if_neg (Nat.not_lt.2 within)

end Block

/-- At each length up to its size, an address has a block, which keeps the bits of the address so
far and no others.  The addresses that agree so far share the block, it has the shorter blocks of the
address, and its own text is the text of the block. -/
theorem blockOf_text {a : Address} {n : Nat} (within : n ≤ a.width) :
    ∃ net : Address, net.width = a.width ∧
      blockOf (a.text ++ "/" ++ toString n) = .ok ⟨net, n⟩ ∧
      (∀ i, net.bit i = (decide (i < n) && a.bit i)) ∧
      (∀ b : Address, b.width = a.width →
        (blockOf (b.text ++ "/" ++ toString n) = .ok ⟨net, n⟩ ↔ ∀ i < n, b.bit i = a.bit i)) ∧
      (∀ m ≤ n, net.mask m = a.mask m) ∧
      blockOf (net.text ++ "/" ++ toString n) = .ok ⟨net, n⟩ := by
  have read {b : Address} (size : b.width = a.width) :
      blockOf (b.text ++ "/" ++ toString n) = .ok ⟨b.mask n, n⟩ :=
    mapError_eq_ok.2 (Block.read_text (by omega))
  refine ⟨a.mask n, a.width_mask n, read rfl, Address.bit_mask within, ?_, ?_, ?_⟩
  · intro b size
    rw [read size, ← Address.mask_eq_mask within size]
    simp
  · intro m shorter
    exact Address.mask_mask shorter within
  · rw [read (a.width_mask n), Address.mask_mask (Nat.le_refl n) within]

/-- The length parts a group, and there are two runs of zeros to be left out of the text. -/
theorem blockOf_text_v6 :
    let a : Address := .v6 0x20010db8000000008a2e00000000abcd
    83 ≤ a.width ∧ ∃ net : Address, net.width = 128 ∧
      blockOf (a.text ++ "/" ++ toString 83) = .ok ⟨net, 83⟩ ∧
      (∀ i, net.bit i = (decide (i < 83) && a.bit i)) ∧
      blockOf (net.text ++ "/" ++ toString 83) = .ok ⟨net, 83⟩ := by
  intro a
  have within : 83 ≤ a.width := by decide
  obtain ⟨net, size, block, bits, -, -, again⟩ := blockOf_text within
  exact ⟨within, net, size, block, bits, again⟩

end Network

end SearchQuery
