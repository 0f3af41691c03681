import SearchQuery.Proofs.Network.Blocks

/-!
# Texts of blocks

A text is read as a block exactly if, without the white space around it, it is an address, or an
address, a slash and decimal digits for a number of bits that the address has.  A plus sign may
stand in front of the digits (`Network.blockOf_writes`).
-/

set_option autoImplicit false
namespace SearchQuery

namespace Network
open Decimal (isDigit digitsValue)

namespace Address

def IsReadable (c : Char) : Prop := isHex c = true ∨ c = '.' ∨ c = ':'

def Passes (cs rest : Chars) : Prop := ∃ front, cs = front ++ rest ∧ ∀ c ∈ front, IsReadable c

theorem Passes.refl (cs : Chars) : Passes cs cs := ⟨[], rfl, by simp⟩

theorem Passes.trans {cs middle rest : Chars} (h : Passes cs middle) (h' : Passes middle rest) :
    Passes cs rest := by
  obtain ⟨front, rfl, first⟩ := h
  obtain ⟨back, rfl, second⟩ := h'
  refine ⟨front ++ back, by simp, ?_⟩
  intro c hc
  exact (List.mem_append.1 hc).elim (first c) (second c)

theorem passes_takeWhile {p : Char → Bool} (readable : ∀ c, p c = true → IsReadable c)
    (cs : Chars) : Passes cs (cs.drop (cs.takeWhile p).length) := by
  refine ⟨cs.takeWhile p, ?_, ?_⟩
  · rw [drop_takeWhile, List.takeWhile_append_dropWhile]
  · intro c hc
    exact readable c (List.all_eq_true.1 List.all_takeWhile c hc)

theorem isHex_of_isDigit {c : Char} (h : isDigit c = true) : isHex c = true := by
  have bounds : '0' ≤ c ∧ c ≤ '9' := by simpa [isDigit] using h
  simp [isHex, hexDigit?, bounds]

theorem takeByte_passes {cs rest : Chars} {n : Nat} (h : takeByte? cs = some (n, rest)) :
    Passes cs rest := by
  unfold takeByte? at h
  dsimp only at h
  split at h
  · cases h
  · cases h
    exact passes_takeWhile (fun _ digit => .inl (isHex_of_isDigit digit)) cs

theorem takeChar_passes {c : Char} (readable : IsReadable c) {cs rest : Chars}
    (h : takeChar? c cs = some rest) : Passes cs rest := by
  cases cs with
  | nil => cases h
  | cons d r =>
    rw [takeChar?] at h
    split at h
    · rename_i same
      cases h
      exact ⟨[d], rfl, by simpa [same] using readable⟩
    · cases h

theorem takeV4_passes {cs rest : Chars} {bits : BitVec 32}
    (h : takeV4? cs = some (bits, rest)) : Passes cs rest := by
  have point : IsReadable '.' := .inr (.inl rfl)
  simp only [takeV4?, Option.bind_eq_bind, Option.bind_eq_some_iff, Option.some.injEq,
    Prod.mk.injEq, Prod.exists] at h
  obtain ⟨_, _, a, _, pa, _, _, b, _, pb, _, _, c, _, pc, _, _, d, -, rfl⟩ := h
  exact (takeByte_passes a).trans <| (takeChar_passes point pa).trans <|
    (takeByte_passes b).trans <| (takeChar_passes point pb).trans <|
    (takeByte_passes c).trans <| (takeChar_passes point pc).trans (takeByte_passes d)

theorem takeGroup_passes {cs rest : Chars} {g : Nat} (h : takeGroup? cs = some (g, rest)) :
    Passes cs rest := by
  unfold takeGroup? at h
  dsimp only at h
  split at h
  · cases h
  · cases h
    exact passes_takeWhile (fun _ hex => .inl hex) cs

theorem takeGroups_passes (limit : Nat) (first : Bool) (cs : Chars) :
    Passes cs (takeGroups limit first cs).2.2 := by
  induction limit generalizing first cs with
  | zero => exact .refl cs
  | succ left ih =>
    unfold takeGroups
    split
    · exact .refl cs
    · rename_i start begun
      have begins : Passes cs start := by
        cases first with
        | true => cases begun; exact .refl cs
        | false => exact takeChar_passes (.inr (.inr rfl)) begun
      split
      · rename_i bits rest short
        split at short
        · cases short
        · exact begins.trans (takeV4_passes short)
      · split
        · rename_i g rest group
          exact begins.trans ((takeGroup_passes group).trans (ih false rest))
        · exact .refl cs

theorem takeV6_passes {cs rest : Chars} {bits : BitVec 128}
    (h : takeV6? cs = some (bits, rest)) : Passes cs rest := by
  have colon : IsReadable ':' := .inr (.inr rfl)
  have front := takeGroups_passes 8 true cs
  unfold takeV6? at h
  dsimp only at h
  split at h
  · cases h
    exact front
  · split at h
    · cases h
    · split at h
      · rename_i behind colons
        rw [colons] at front
        cases h
        have between : Passes (':' :: ':' :: behind) behind :=
          ⟨[':', ':'], rfl, by simpa using colon⟩
        exact front.trans (between.trans (takeGroups_passes _ _ _))
      · cases h

theorem isReadable_of_read {cs : Chars} {a : Address} (h : read? cs = some a) :
    ∀ c ∈ cs, IsReadable c := by
  have whole {rest : Chars} (passes : Passes cs rest) (done : rest.isEmpty = true) :
      ∀ c ∈ cs, IsReadable c := by
    obtain ⟨front, rfl, readable⟩ := passes
    rw [List.isEmpty_iff.1 done, List.append_nil]
    exact readable
  unfold read? at h
  split at h
  · rename_i short
    split at h
    · rename_i done
      exact whole (takeV4_passes short) done
    · cases h
  · split at h
    · rename_i long
      split at h
      · rename_i done
        exact whole (takeV6_passes long) done
      · cases h
    · cases h

/-- No address is read from a text with a slash. -/
theorem noSlash_of_read {cs : Chars} {a : Address} (h : read? cs = some a) :
    ∀ c ∈ cs, (c != '/') = true := by
  intro c hc
  rw [bne_iff_ne]
  rintro rfl
  rcases isReadable_of_read h '/' hc with hex | point | colon
  · exact absurd hex (by decide)
  · exact absurd point (by decide)
  · exact absurd colon (by decide)

end Address

/-- The digits of a number in decimal, perhaps with zeros in front. -/
structure Spells (digits : List Char) (n : Nat) : Prop where
  some : digits ≠ []
  all : ∀ c ∈ digits, isDigit c = true
  value : digitsValue digits = n

theorem Spells.head_ne_plus {digits : List Char} {n : Nat} (h : Spells digits n) (r : List Char) :
    digits ≠ '+' :: r := by
  rintro rfl
  exact absurd (h.all '+' List.mem_cons_self) (by decide)

theorem byte_eq_some {cs : List Char} {n : Nat} : byte? cs = some n ↔
    (Spells cs n ∨ ∃ digits, cs = '+' :: digits ∧ Spells digits n) ∧ n ≤ 255 := by
  have unsigned (digits : List Char) :
      (if digits.isEmpty || !digits.all isDigit || decide (255 < digitsValue digits) then none
        else some (digitsValue digits)) = some n ↔ Spells digits n ∧ n ≤ 255 := by
    constructor
    · intro h
      split at h
      · cases h
      · rename_i good
        simp only [Bool.or_eq_true, List.isEmpty_iff, Bool.not_eq_true', decide_eq_true_iff,
          not_or, Bool.not_eq_false, List.all_eq_true] at good
        cases h
        exact ⟨⟨good.1.1, good.1.2, rfl⟩, by omega⟩
    · rintro ⟨⟨some, all, rfl⟩, small⟩
      have digit : digits.all isDigit = true := List.all_eq_true.2 all
      simp [some, digit, Nat.not_lt.2 small]
  unfold byte?
  split
  · rename_i r
    rw [unsigned r]
    constructor
    · rintro ⟨spells, small⟩
      exact ⟨.inr ⟨r, rfl, spells⟩, small⟩
    · rintro ⟨spells | ⟨digits, same, spells⟩, small⟩
      · exact absurd rfl (spells.head_ne_plus r)
      · cases same
        exact ⟨spells, small⟩
  · rename_i noSign
    rw [unsigned cs]
    refine and_congr_left fun _ => ⟨.inl, ?_⟩
    rintro (spells | ⟨digits, same, -⟩)
    · exact spells
    · exact absurd same (noSign digits)

/-- The texts of the block of an address at a length: the address alone stands for all of its bits,
else a slash and the length follow it. -/
inductive Writes : List Char → Address → Nat → Prop
  | alone {cs : List Char} {a : Address} (h : Address.read? cs = some a) : Writes cs a a.width
  | measured {front digits : List Char} {a : Address} {n : Nat} (h : Address.read? front = some a)
      (length : Spells digits n) (within : n ≤ a.width) : Writes (front ++ '/' :: digits) a n

/-- Texts with a plus sign between the slash and the length, which are read alike. -/
def WritesSigned (cs : List Char) (a : Address) (n : Nat) : Prop :=
  ∃ front digits, cs = front ++ '/' :: '+' :: digits ∧ Address.read? front = some a ∧
    Spells digits n ∧ n ≤ a.width

theorem takeWhile_slash {front : List Char} {a : Address} (h : Address.read? front = some a)
    (tail : List Char) :
    (front ++ '/' :: tail).takeWhile (· != '/') = front ∧
      (front ++ '/' :: tail).dropWhile (· != '/') = '/' :: tail :=
  ⟨takeWhile_append_stop (Address.noSlash_of_read h) (by simp),
    dropWhile_append_stop (Address.noSlash_of_read h) (by simp)⟩

theorem takeWhile_address {cs : List Char} {a : Address} (h : Address.read? cs = some a) :
    cs.takeWhile (· != '/') = cs ∧ cs.dropWhile (· != '/') = [] := by
  have noSlash := Address.noSlash_of_read h
  have nothing : ∀ c ∈ ([] : List Char).head?, (c != '/') = false := by simp
  have parted := And.intro (takeWhile_append_stop noSlash nothing)
    (dropWhile_append_stop noSlash nothing)
  rwa [List.append_nil] at parted

theorem Writes.length {cs tail : List Char} {a : Address} {n : Nat} (h : Writes cs a n)
    (slash : cs.dropWhile (· != '/') = '/' :: tail) : Spells tail n := by
  cases h with
  | alone h =>
    rw [(takeWhile_address h).2] at slash
    cases slash
  | measured h length within =>
    rw [(takeWhile_slash h _).2] at slash
    cases slash
    exact length

namespace Block

theorem make_eq_ok {a : Address} {n : Nat} {b : Block} :
    Block.make a n = .ok b ↔ n ≤ a.width ∧ b = ⟨a.mask n, n⟩ := by
  rw [Block.make, ite_error_eq_ok, Nat.not_lt, Except.ok.injEq, eq_comm]

theorem read_eq_ok {text : String} {b : Block} : Block.read text = .ok b ↔
    ∃ a n, (Writes (trimChars text.toList) a n ∨ WritesSigned (trimChars text.toList) a n) ∧
      b = ⟨a.mask n, n⟩ := by
  unfold Block.read
  dsimp only
  generalize trimChars text.toList = cs
  constructor
  · intro h
    have parts := List.takeWhile_append_dropWhile (p := (· != '/')) (l := cs)
    split at h
    · cases h
    · rename_i a address
      split at h
      · rename_i none
        rw [none, List.append_nil] at parts
        rw [parts] at address
        exact ⟨a, a.width, .inl (.alone address), (make_eq_ok.1 h).2⟩
      · rename_i c tail slash
        have first : c = '/' := by
          have head := List.head?_dropWhile_not (p := (· != '/')) (l := cs)
          simpa [slash] using head
        subst first
        split at h
        · cases h
        · rename_i n read
          obtain ⟨within, rfl⟩ := make_eq_ok.1 h
          rw [slash] at parts
          refine ⟨a, n, ?_, rfl⟩
          rw [← parts]
          obtain ⟨spells | ⟨digits, rfl, spells⟩, -⟩ := byte_eq_some.1 read
          · exact .inl (.measured address spells within)
          · exact .inr ⟨_, digits, rfl, address, spells, within⟩
  · -- The length of an address is below 256, so that its digits are read.
    have small {a : Address} {n : Nat} (within : n ≤ a.width) : n ≤ 255 := by
      cases a <;> simp only [Address.width] at within <;> omega
    rintro ⟨a, n, writes | ⟨front, digits, rfl, address, spells, within⟩, rfl⟩
    · cases writes with
      | alone address =>
        rw [(takeWhile_address address).1, (takeWhile_address address).2, address]
        exact make_eq_ok.2 ⟨Nat.le_refl _, rfl⟩
      | measured address spells within =>
        have read := byte_eq_some.2 ⟨.inl spells, small within⟩
        rw [(takeWhile_slash address _).1, (takeWhile_slash address _).2, address]
        dsimp only
        rw [read]
        exact make_eq_ok.2 ⟨within, rfl⟩
    · have read := byte_eq_some.2 ⟨.inr ⟨digits, rfl, spells⟩, small within⟩
      rw [(takeWhile_slash address _).1, (takeWhile_slash address _).2, address]
      dsimp only
      rw [read]
      exact make_eq_ok.2 ⟨within, rfl⟩

end Block

/-- A text is accepted exactly if it writes a block, with or without a plus sign in front of the
length.  Where no plus sign stands behind a slash, it is accepted exactly if it writes a block
without one. -/
theorem blockOf_writes (text : String) :
    let cs := trimChars text.toList
    ((∃ block, blockOf text = .ok block) ↔ ∃ a n, Writes cs a n ∨ WritesSigned cs a n) ∧
    ((∀ front digits, cs ≠ front ++ '/' :: '+' :: digits) →
      ((∃ block, blockOf text = .ok block) ↔ ∃ a n, Writes cs a n)) := by
  intro cs
  have accepted : (∃ block, blockOf text = .ok block) ↔
      ∃ a n, Writes cs a n ∨ WritesSigned cs a n := by
    simp only [blockOf, mapError_eq_ok, Block.read_eq_ok]
    constructor
    · rintro ⟨-, a, n, writes, -⟩
      exact ⟨a, n, writes⟩
    · rintro ⟨a, n, writes⟩
      exact ⟨_, a, n, writes, rfl⟩
  refine ⟨accepted, fun unsigned => accepted.trans ?_⟩
  constructor
  · rintro ⟨a, n, writes | ⟨front, digits, signed, -⟩⟩
    · exact ⟨a, n, writes⟩
    · exact absurd signed (unsigned front digits)
  · rintro ⟨a, n, writes⟩
    exact ⟨a, n, .inl writes⟩

/-- White space, capitals and zeros in front of the length are accepted. -/
theorem blockOf_writes_zeros :
    let text := " 2001:DB8::1/0064\t"
    let a : Address := .v6 0x20010db8000000000000000000000001
    (∀ front digits, trimChars text.toList ≠ front ++ '/' :: '+' :: digits) ∧
      Writes (trimChars text.toList) a 64 ∧ ∃ block, blockOf text = .ok block := by
  intro text a
  have unsigned : ∀ front digits, trimChars text.toList ≠ front ++ '/' :: '+' :: digits := by
    intro front digits signed
    have plus : '+' ∉ trimChars text.toList := by decide
    exact plus (by simp [signed])
  have writes : Writes (trimChars text.toList) a 64 := by
    have digits : "0064".toList.all isDigit = true := by decide
    have length : Spells "0064".toList 64 := ⟨by decide, List.all_eq_true.1 digits, by decide⟩
    have parted : trimChars text.toList = "2001:DB8::1".toList ++ '/' :: "0064".toList := by decide
    rw [parted]
    exact .measured (by with_unfolding_all rfl) length (by decide)
  exact ⟨unsigned, writes, ((blockOf_writes text).2 unsigned).2 ⟨a, 64, writes⟩⟩

/-- The length has a plus sign, and the text is accepted though it writes no block. -/
theorem blockOf_accepts_plus :
    blockOf "10.0.0.1/+8" = .ok ⟨.v4 0x0a000000, 8⟩ ∧
      ¬ ∃ a n, Writes (trimChars "10.0.0.1/+8".toList) a n := by
  refine ⟨by with_unfolding_all rfl, ?_⟩
  rintro ⟨a, n, writes⟩
  have length : Spells ['+', '8'] n := writes.length (by decide)
  exact length.head_ne_plus ['8'] rfl

end Network

end SearchQuery
