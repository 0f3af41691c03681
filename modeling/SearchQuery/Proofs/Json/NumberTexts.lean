import SearchQuery.Json.Writer
import SearchQuery.Proofs.Json.Numerals
import SearchQuery.Proofs.Text.Bytes

/-!
# The texts of numbers

The text that is written for a finite number is read as a number again, whatever stands behind it.
Whole numbers come back as they are.  A number of double precision need not, since its digits are
scaled with two roundings, but it is never out of range.
-/

set_option autoImplicit false
namespace SearchQuery.Json
open Decimal (Binary Digits digitChars positional scientific joinPoint zeros shortest documentText
  withSign)

theorem encodeChars_append (cs ds : List Char) :
    encodeChars (cs ++ ds) = encodeChars cs ++ encodeChars ds :=
  List.flatMap_append

theorem utf8EncodeChar_ascii {c : Char} (h : c.toNat < 128) :
    String.utf8EncodeChar c = [UInt8.ofNat c.toNat] := by
  have h : c.val.toNat < 128 := h
  unfold String.utf8EncodeChar
  dsimp only
  rw [if_pos (by omega)]
  rfl

theorem encodeChars_ascii {cs : List Char} (h : ∀ c ∈ cs, c.toNat < 128) :
    encodeChars cs = cs.map fun c => UInt8.ofNat c.toNat := by
  induction cs with
  | nil => rfl
  | cons c cs ih =>
    rw [encodeChars, List.flatMap_cons, utf8EncodeChar_ascii (h c List.mem_cons_self)]
    exact congrArg (_ :: ·) (ih fun d hd => h d (List.mem_cons_of_mem c hd))

def AreDigitChars (cs : List Char) : Prop := ∀ c ∈ cs, c.isDigit = true

namespace AreDigitChars
variable {cs ds : List Char}

theorem encode (h : AreDigitChars cs) : encodeChars cs = cs.map fun c => UInt8.ofNat c.toNat := by
  refine encodeChars_ascii fun c hc => ?_
  have digit := (Char.isDigit_iff_toNat.1 (h c hc)).2
  exact Nat.lt_of_le_of_lt digit (by decide)

theorem areDigits (h : AreDigitChars cs) : AreDigits (encodeChars cs) := by
  intro b hb
  rw [h.encode] at hb
  obtain ⟨c, hc, rfl⟩ := List.mem_map.1 hb
  obtain ⟨low, high⟩ := Char.isDigit_iff_toNat.1 (h c hc)
  change 48 ≤ c.toNat at low
  change c.toNat ≤ 57 at high
  have value : (UInt8.ofNat c.toNat).toNat = c.toNat := by
    rw [UInt8.toNat_ofNat', Nat.mod_eq_of_lt (by omega)]
  rw [isDigitByte, Bool.and_eq_true, decide_eq_true_iff, decide_eq_true_iff, UInt8.le_iff_toNat_le,
    UInt8.le_iff_toNat_le, value]
  exact ⟨low, high⟩

theorem length_encode (h : AreDigitChars cs) : (encodeChars cs).length = cs.length := by
  rw [h.encode, List.length_map]

theorem encode_ne_nil (h : AreDigitChars cs) (some : cs ≠ []) : encodeChars cs ≠ [] := by
  rw [h.encode]
  exact fun empty => some (List.map_eq_nil_iff.1 empty)

theorem value (h : AreDigitChars cs) (n : Nat) :
    appendDigits n (digitsOf (encodeChars cs)) = Nat.ofDigitChars 10 cs n := by
  rw [h.encode, digitsOf, List.map_map, appendDigits, List.foldl_map, Nat.ofDigitChars_eq_foldl]
  refine List.foldl_ext _ _ _ fun n c hc => ?_
  have digit := (Char.isDigit_iff_toNat.1 (h c hc)).2
  change c.toNat ≤ 57 at digit
  rw [Function.comp_apply, UInt8.toNat_ofNat', Nat.mod_eq_of_lt (by omega)]
  rfl

theorem append (hc : AreDigitChars cs) (hd : AreDigitChars ds) : AreDigitChars (cs ++ ds) := by
  intro c h
  rcases List.mem_append.1 h with h | h
  · exact hc c h
  · exact hd c h

theorem zeros (n : Nat) : AreDigitChars (zeros n) := by
  intro c h
  rw [List.eq_of_mem_replicate h]
  rfl

theorem digitChars (n : Nat) : AreDigitChars (digitChars n) := fun _ h =>
  Nat.isDigit_of_mem_toDigits (by decide) (Nat.le_refl 10) h

end AreDigitChars

theorem digitChars_cons {n : Nat} (h : 0 < n) :
    ∃ d ds, digitChars n = d :: ds ∧ d ≠ '0' := by
  induction n using Nat.strongRecOn with
  | ind n ih =>
    rw [digitChars, Nat.toDigits_eq_if (by decide)]
    split
    · rename_i small
      refine ⟨n.digitChar, [], rfl, ?_⟩
      have other : ∀ d : Fin 10, 0 < d.val → d.val.digitChar ≠ '0' := by decide
      exact other ⟨n, small⟩ h
    · rename_i large
      obtain ⟨d, ds, first, other⟩ := ih (n / 10) (by omega) (by omega)
      exact ⟨d, ds ++ [(n % 10).digitChar], congrArg (· ++ _) first, other⟩

theorem digitChars_value (n : Nat) : Nat.ofDigitChars 10 (digitChars n) 0 = n :=
  Nat.ofDigitChars_ten_toDigits

theorem isWhole_cons {d : Char} {ds : List Char} (h : AreDigitChars (d :: ds)) (other : d ≠ '0') :
    IsWhole (encodeChars (d :: ds)) := by
  refine ⟨h.areDigits, .inr ?_, h.encode_ne_nil (List.cons_ne_nil d ds)⟩
  rw [h.encode, List.map_cons, List.head?_cons]
  intro zero
  obtain ⟨low, high⟩ := Char.isDigit_iff_toNat.1 (h d List.mem_cons_self)
  change 48 ≤ d.toNat at low
  change d.toNat ≤ 57 at high
  have same := congrArg UInt8.toNat (Option.some.inj zero)
  rw [UInt8.toNat_ofNat', Nat.mod_eq_of_lt (by omega)] at same
  have same : d.toNat = '0'.toNat := same
  exact other (Char.toNat_inj.1 same)

theorem isWhole_zero : IsWhole (encodeChars ['0']) :=
  ⟨(AreDigitChars.digitChars 0).areDigits, .inl rfl, List.cons_ne_nil _ _⟩

/-- The text of a number without its sign, which is read as a number with either sign. -/
structure IsNumberText (cs : List Char) : Prop where
  lead : ∃ b r, encodeChars cs = b :: r ∧ isDigitByte b = true
  reads : ∀ negative, ReadsReal (readNumber negative) (encodeChars cs)

theorem lead_of_isWhole {whole : List Char} (h : IsWhole (encodeChars whole)) (rest : List Char) :
    ∃ b r, encodeChars (whole ++ rest) = b :: r ∧ isDigitByte b = true := by
  obtain ⟨b, r, first⟩ := List.ne_nil_iff_exists_cons.1 h.some
  refine ⟨b, r ++ encodeChars rest, ?_, h.digits b ?_⟩
  · rw [encodeChars_append, first, List.cons_append]
  · rw [first]
    exact List.mem_cons_self

theorem isNumberText_joinPoint {whole places : List Char} (hw : IsWhole (encodeChars whole))
    (few : (encodeChars whole).length ≤ 288) (hp : AreDigitChars places) (some : places ≠ []) :
    IsNumberText (whole ++ '.' :: places) := by
  refine ⟨lead_of_isWhole hw _, fun negative => ?_⟩
  have bytes : encodeChars (whole ++ '.' :: places) =
      encodeChars whole ++ (46 :: encodeChars places ++ []) := by
    rw [encodeChars_append, List.append_nil]
    rfl
  have whole_bounds := gather_bounds (show 0 < 2 ^ 64 by decide) (digitsOf (encodeChars whole))
  have bounds := gather_bounds whole_bounds.1 (digitsOf (encodeChars places))
  have count : (digitsOf (encodeChars whole)).length = (encodeChars whole).length :=
    List.length_map _
  have fits := scale_small (e := (gather 0 (digitsOf (encodeChars whole))).2 -
    ((encodeChars places).length - (gather (gather 0 (digitsOf (encodeChars whole))).1
      (digitsOf (encodeChars places))).2 : Nat)) bounds.1 (by omega)
  rw [bytes]
  exact readNumber_reads hw rfl (readPlaces_reads hp.areDigits (hp.encode_ne_nil some)
    (.inl rfl) (readRealEnd_reads negative (.inl ⟨rfl, fits⟩)))

theorem isNumberText_pointZero {whole : List Char} (hw : IsWhole (encodeChars whole))
    (few : (encodeChars whole).length ≤ 288) : IsNumberText (whole ++ ['.', '0']) :=
  isNumberText_joinPoint hw few (AreDigitChars.digitChars 0) (List.cons_ne_nil _ _)

theorem positional_parts {d : Digits} (some : 0 < d.coefficient)
    (small : d.exponent + (digitChars d.coefficient).length - 1 < 16) :
    ∃ whole places, positional d = (whole, places) ∧ IsWhole (encodeChars whole) ∧
      (encodeChars whole).length ≤ 288 ∧ AreDigitChars places := by
  have digits := AreDigitChars.digitChars d.coefficient
  obtain ⟨c, cs, first, other⟩ := digitChars_cons some
  rw [positional]
  rw [first] at digits small ⊢
  dsimp only
  split
  · refine ⟨_, _, rfl, isWhole_cons (digits.append (.zeros _)) other, ?_, fun _ h => nomatch h⟩
    rw [(digits.append (.zeros _)).length_encode, List.length_append, zeros, List.length_replicate]
    omega
  · split
    · rename_i point
      obtain ⟨n, count⟩ : ∃ n, (c :: cs).length - (-d.exponent).toNat = n + 1 :=
        ⟨(c :: cs).length - (-d.exponent).toNat - 1, by omega⟩
      have whole : AreDigitChars ((c :: cs).take (n + 1)) :=
        fun b h => digits b (List.mem_of_mem_take h)
      have isWhole : IsWhole (encodeChars (c :: cs.take n)) := isWhole_cons whole other
      rw [count]
      refine ⟨_, _, rfl, isWhole, ?_, fun b h => digits b (List.mem_of_mem_drop h)⟩
      have taken := List.length_take_le (n + 1) (c :: cs)
      rw [whole.length_encode]
      omega
    · exact ⟨_, _, rfl, isWhole_zero, by decide, .append (.zeros _) digits⟩

/-- A decimal close to a finite number has few digits before its point. -/
theorem exponent_lt {b : Binary} {d : Digits} (h : b.InRange) (close : d.IsClose b) :
    d.exponent + (digitChars d.coefficient).length - 1 < 309 := by
  obtain ⟨n, count⟩ : ∃ n, (digitChars d.coefficient).length = n + 1 :=
    Nat.exists_eq_succ_of_ne_zero (Nat.ne_of_gt Nat.length_toDigits_pos)
  have size : 10 ^ n ≤ d.coefficient := by
    by_contra small
    rcases Nat.eq_zero_or_pos n with rfl | some
    · exact small close.positive
    · have few := (Nat.length_toDigits_le_iff (b := 10) (by decide) some).2 (Nat.lt_of_not_le small)
      rw [← digitChars, count] at few
      exact Nat.not_succ_le_self n few
  have size : (10 : ℚ) ^ n ≤ d.coefficient := by exact_mod_cast size
  have significand : (b.significand : ℚ) + 1 / 2 ≤ 2 ^ 53 := by
    have small : b.significand + 1 ≤ 2 ^ 53 := h.small
    have small : (b.significand : ℚ) + 1 ≤ 2 ^ 53 := by exact_mod_cast small
    linarith
  have power : (2 : ℚ) ^ b.exponent ≤ 2 ^ (971 : ℤ) := zpow_le_zpow_right₀ (by norm_num) h.high
  have least : (2 ^ 53 : ℚ) * 2 ^ (971 : ℤ) < 10 ^ (309 : ℤ) := by
    have natural : 2 ^ 53 * 2 ^ 971 < 10 ^ 309 := by decide +kernel
    exact_mod_cast natural
  have bounded : (10 : ℚ) ^ (n + d.exponent) < 10 ^ (309 : ℤ) := by
    calc (10 : ℚ) ^ (n + d.exponent) = 10 ^ n * 10 ^ d.exponent := by
          rw [zpow_add₀ (by norm_num), zpow_natCast]
      _ ≤ d.coefficient * 10 ^ d.exponent := by gcongr
      _ ≤ (b.significand + 1 / 2) * 2 ^ b.exponent := close.bounded
      _ ≤ 2 ^ 53 * 2 ^ (971 : ℤ) := by gcongr
      _ < 10 ^ (309 : ℤ) := least
  have exponent := (zpow_lt_zpow_iff_right₀ (by norm_num)).1 bounded
  omega

theorem exponent_reads {n : Nat} {shift e : Int} (small : e < 309)
    (fits : ∃ y, scale 8 (Float.ofNat n) (shift + e) = some y) (negative : Bool) :
    ReadsReal (readExponent negative n shift)
      (encodeChars ('e' :: (if e < 0 then '-' else '+') :: digitChars e.natAbs)) := by
  have digits := AreDigitChars.digitChars e.natAbs
  have value : appendDigits 0 (digitsOf (encodeChars (digitChars e.natAbs))) = e.natAbs :=
    (digits.value 0).trans (digitChars_value _)
  have bytes : encodeChars ('e' :: (if e < 0 then '-' else '+') :: digitChars e.natAbs) =
      101 :: (if decide (e < 0) then 45 else 43) :: encodeChars (digitChars e.natAbs) := by
    by_cases down : e < 0
    · rw [if_pos down, decide_eq_true down]
      rfl
    · rw [if_neg down, decide_eq_false down]
      rfl
  rw [bytes]
  refine readExponent_reads digits.areDigits (digits.encode_ne_nil Nat.toDigits_ne_nil) negative n
    shift (decide (e < 0)) (fun up => ?_) ?_
  · have up : ¬ e < 0 := of_decide_eq_false up
    rw [value]
    omega
  · rw [value]
    by_cases down : e < 0
    · rw [decide_eq_true down, if_pos rfl, show shift - (e.natAbs : Nat) = shift + e by omega]
      exact fits
    · rw [decide_eq_false down, if_neg Bool.false_ne_true,
        show shift + (e.natAbs : Nat) = shift + e by omega]
      exact fits

/-- The digits of a shortest decimal that are gathered are scaled without overflow. -/
theorem scale_gathered {b : Binary} (h : b.InRange) {d : Digits}
    (hd : d = Decimal.search .even b 24 (Decimal.topGrid b)) {ds : List Char}
    (hds : digitChars d.coefficient = ds) :
    ∃ y, scale 8 (Float.ofNat (gather 0 (digitsOf (encodeChars ds))).1)
      (d.exponent + (gather 0 (digitsOf (encodeChars ds))).2) = some y := by
  have digits := AreDigitChars.digitChars d.coefficient
  have value := (digits.value 0).trans (digitChars_value _)
  rw [hds] at value
  have bounds := gather_bounds (show 0 < 2 ^ 64 by decide) (digitsOf (encodeChars ds))
  rw [value] at bounds
  subst hd
  refine scale_search h bounds.1 bounds.2.2 fun fits => ?_
  rw [gather_of_lt (by rwa [value]), value]
  exact ⟨rfl, rfl⟩

theorem gather_lead {c : Char} (h : AreDigitChars [c]) (cs : List Char) :
    (gather 0 (digitsOf (encodeChars [c]))).2 = 0 ∧ gather 0 (digitsOf (encodeChars (c :: cs))) =
      gather (gather 0 (digitsOf (encodeChars [c]))).1 (digitsOf (encodeChars cs)) := by
  have bytes : encodeChars (c :: cs) = UInt8.ofNat c.toNat :: encodeChars cs := by
    change encodeChars ([c] ++ cs) = _
    rw [encodeChars_append, h.encode]
    rfl
  have digit := (UInt8.ofNat c.toNat).toNat_lt
  have fits : 10 * 0 + ((UInt8.ofNat c.toNat).toNat - 48) < 0x10000000000000000 := by omega
  have lead : gather 0 (digitsOf (encodeChars [c])) =
      (10 * 0 + ((UInt8.ofNat c.toNat).toNat - 48), 0) := by
    rw [h.encode, List.map_singleton, digitsOf, List.map_singleton, gather_cons, if_pos fits,
      gather_nil]
  rw [lead, bytes, digitsOf, List.map_cons, gather_cons, if_pos fits]
  exact ⟨rfl, rfl⟩

section Scaled
variable {whole places : List Char} {e : Int}

theorem isNumberText_exponent (hw : IsWhole (encodeChars whole)) (small : e < 309)
    (fits : ∃ y, scale 8 (Float.ofNat (gather 0 (digitsOf (encodeChars whole))).1)
      ((gather 0 (digitsOf (encodeChars whole))).2 + e) = some y) :
    IsNumberText (whole ++ 'e' :: (if e < 0 then '-' else '+') :: digitChars e.natAbs) := by
  refine ⟨lead_of_isWhole hw _, fun negative => ?_⟩
  rw [encodeChars_append]
  exact readNumber_reads hw rfl (exponent_reads small fits negative)

theorem isNumberText_placesExponent (hw : IsWhole (encodeChars whole)) (hp : AreDigitChars places)
    (some : places ≠ []) (small : e < 309)
    (fits : let n := gather 0 (digitsOf (encodeChars whole))
      let m := gather n.1 (digitsOf (encodeChars places))
      ∃ y, scale 8 (Float.ofNat m.1) (n.2 - (places.length - m.2 : Nat) + e) = .some y) :
    IsNumberText (whole ++ '.' :: places ++
      'e' :: (if e < 0 then '-' else '+') :: digitChars e.natAbs) := by
  rw [List.append_assoc]
  refine ⟨lead_of_isWhole hw _, fun negative => ?_⟩
  have bytes (rest : List Char) : encodeChars (whole ++ ('.' :: places ++ rest)) =
      encodeChars whole ++ (46 :: encodeChars places ++ encodeChars rest) := by
    rw [encodeChars_append, encodeChars_append]
    rfl
  rw [bytes]
  refine readNumber_reads hw rfl (readPlaces_reads hp.areDigits (hp.encode_ne_nil some) (.inr rfl)
    (readRealEnd_reads negative (.inr ⟨rfl, exponent_reads small ?_ negative⟩)))
  rw [hp.length_encode]
  exact fits

end Scaled

theorem isNumberText_scientific {b : Binary} (h : b.InRange) :
    IsNumberText (scientific (Decimal.search .even b 24 (Decimal.topGrid b))) := by
  have close := Decimal.search_isClose h .even
  have small := exponent_lt h close
  generalize hd : Decimal.search .even b 24 (Decimal.topGrid b) = d at close small ⊢
  obtain ⟨c, cs, first, other⟩ := digitChars_cons close.positive
  have digits : AreDigitChars (c :: cs) := first ▸ AreDigitChars.digitChars d.coefficient
  have lead : AreDigitChars [c] := List.forall_mem_singleton.2 (List.forall_mem_cons.1 digits).1
  have behind : AreDigitChars cs := (List.forall_mem_cons.1 digits).2
  have whole : IsWhole (encodeChars [c]) := isWhole_cons lead other
  obtain ⟨y, fits⟩ := scale_gathered h hd.symm first
  have exponent : d.exponent + (digitChars d.coefficient).length - 1 = d.exponent + cs.length := by
    rw [first, List.length_cons]
    omega
  rw [exponent] at small
  rw [scientific, exponent, first, List.take_succ_cons, List.take_zero, List.drop_succ_cons,
    List.drop_zero]
  -- A single digit is written without a point.
  cases cs with
  | nil =>
    rw [joinPoint]
    refine isNumberText_exponent whole small ⟨y, ?_⟩
    rw [← fits]
    congr 1
    simp only [List.length_nil]
    omega
  | cons c' cs =>
    refine isNumberText_placesExponent whole behind (List.cons_ne_nil c' cs) small ⟨y, ?_⟩
    obtain ⟨whole_none, gathered⟩ := gather_lead lead (c' :: cs)
    have bounds := gather_bounds
      (gather_bounds (show 0 < 2 ^ 64 by decide) (digitsOf (encodeChars [c]))).1
      (digitsOf (encodeChars (c' :: cs)))
    have count : (digitsOf (encodeChars (c' :: cs))).length = (c' :: cs).length :=
      (List.length_map _).trans behind.length_encode
    rw [count] at bounds
    rw [← fits, gathered, whole_none]
    congr 1
    omega

theorem documentText_isNumberText {x : Float} (finite : x.isFinite = true) :
    ∃ cs, documentText x = withSign x cs ∧ IsNumberText cs := by
  rw [documentText]
  split
  · exact ⟨_, rfl, isNumberText_pointZero isWhole_zero (by decide)⟩
  · rename_i nonzero
    have other : (x == 0.0) = false := Bool.eq_false_iff.2 nonzero
    have close := Decimal.shortest_isClose finite other .even
    dsimp only
    split
    · rename_i range
      obtain ⟨whole, places, parts, hw, few, hp⟩ := positional_parts close.positive range.2
      rw [parts]
      cases places with
      | nil =>
        exact ⟨_, rfl, isNumberText_pointZero hw few⟩
      | cons c cs =>
        exact ⟨_, rfl, isNumberText_joinPoint hw few hp (List.cons_ne_nil c cs)⟩
    · exact ⟨_, rfl, isNumberText_scientific (Decimal.ofFloat_inRange finite other)⟩

theorem skipSpace_cons {b : UInt8} (h : Cursor.isSpace b = false) (r : List UInt8) (p : Position) :
    (Cursor.mk (b :: r) p).skipSpace = ⟨b :: r, p⟩ := by
  rw [Cursor.skipSpace, Cursor.skipFrom, h, if_neg Bool.false_ne_true]

theorem ne_of_isDigitByte {b k : UInt8} (h : isDigitByte b = true) (hk : isDigitByte k = false) :
    b ≠ k := by
  rintro rfl
  rw [h] at hk
  cases hk

theorem isSpace_of_isDigitByte {b : UInt8} (h : isDigitByte b = true) :
    Cursor.isSpace b = false := by
  have other {k : UInt8} (hk : isDigitByte k = false) : b ≠ k := ne_of_isDigitByte h hk
  simp only [Cursor.isSpace, Bool.or_eq_false_iff, beq_eq_false_iff_ne]
  exact ⟨⟨⟨other rfl, other rfl⟩, other rfl⟩, other rfl⟩

theorem readValue_minus (fuel depth : Nat) (r : List UInt8) (p : Position) :
    readValue (fuel + 1) depth ⟨45 :: r, p⟩ =
      (readNumber true ⟨r, p.advance 45⟩).map fun (n, c) => (.number n, c) := by
  rw [readValue]
  rfl

theorem readValue_digit {b : UInt8} (h : isDigitByte b = true) (fuel depth : Nat) (r : List UInt8)
    (p : Position) : readValue (fuel + 1) depth ⟨b :: r, p⟩ =
      (readNumber false ⟨b :: r, p⟩).map fun (n, c) => (.number n, c) := by
  have other {k : UInt8} (hk : isDigitByte k = false) : b ≠ k := ne_of_isDigitByte h hk
  rw [readValue, skipSpace_cons (isSpace_of_isDigitByte h)]
  dsimp only
  rw [if_neg (other rfl), if_neg (other rfl), if_neg (other rfl), if_neg (other rfl), if_pos h]
  rfl

/-- The bytes are read as the number wherever a value can stand. -/
def ReadsNumber (bytes : List UInt8) (m : Number) : Prop :=
  ∀ fuel depth tail, EndsNumber tail → ∀ p, ∃ p',
    readValue (fuel + 1) depth ⟨bytes ++ tail, p⟩ = .ok (.number m, ⟨tail, p'⟩)

/-- A text with or without a sign is read if its digits are. -/
theorem readsNumber_of_digits {bytes : List UInt8} {m : Number} (negative : Bool)
    (lead : ∃ b r, bytes = b :: r ∧ isDigitByte b = true)
    (reads : ∀ tail, EndsNumber tail → ∀ p, ∃ p',
      readNumber negative ⟨bytes ++ tail, p⟩ = .ok (m, ⟨tail, p'⟩)) :
    ReadsNumber ((if negative then [45] else []) ++ bytes) m := by
  intro fuel depth tail ends p
  cases negative with
  | true =>
    obtain ⟨p', h⟩ := reads tail ends (p.advance 45)
    refine ⟨p', (readValue_minus fuel depth (bytes ++ tail) p).trans ?_⟩
    rw [h]
    rfl
  | false =>
    obtain ⟨p', h⟩ := reads tail ends p
    obtain ⟨b, r, rfl, digit⟩ := lead
    refine ⟨p', (readValue_digit digit fuel depth (r ++ tail) p).trans ?_⟩
    rw [show b :: (r ++ tail) = b :: r ++ tail from rfl, h]
    rfl

theorem lead_of_digits {bytes : List UInt8} (negative : Bool)
    (lead : ∃ b r, bytes = b :: r ∧ isDigitByte b = true) :
    ∃ b r, (if negative then [45] else []) ++ bytes = b :: r ∧ (b = 45 ∨ isDigitByte b = true) := by
  obtain ⟨b, r, rfl, digit⟩ := lead
  cases negative with
  | true => exact ⟨45, b :: r, rfl, .inl rfl⟩
  | false => exact ⟨b, r, rfl, .inr digit⟩

theorem bytesOf_withSign (x : Float) (cs : List Char) : bytesOf (withSign x cs) =
    (if Decimal.isNegative x then [45] else []) ++ encodeChars cs := by
  rw [withSign, bytesOf_ofList]
  split
  · rfl
  · rfl

theorem isWhole_digitChars (n : Nat) : IsWhole (encodeChars (digitChars n)) := by
  rcases Nat.eq_zero_or_pos n with rfl | some
  · exact isWhole_zero
  · obtain ⟨c, cs, first, other⟩ := digitChars_cons some
    have digits := AreDigitChars.digitChars n
    rw [first] at digits ⊢
    exact isWhole_cons digits other

theorem bytesOf_toString (n : Int) : bytesOf (toString n) =
    (if decide (n < 0) then [45] else []) ++ encodeChars (digitChars n.natAbs) := by
  rw [show toString n = n.repr from rfl, Int.repr_eq_if]
  by_cases negative : n < 0
  · rw [if_neg (by omega), decide_eq_true negative, if_pos rfl, bytesOf_append,
      show (-n).toNat = n.natAbs by omega, Nat.repr_eq_ofList_toDigits, bytesOf_ofList,
      bytesOf_ofList]
    rfl
  · rw [if_pos (by omega), decide_eq_false negative, if_neg Bool.false_ne_true,
      show n.toNat = n.natAbs by omega, Nat.repr_eq_ofList_toDigits, bytesOf_ofList]
    rfl

theorem wholeNumber_natAbs {n : Int} (h : -0x8000000000000000 ≤ n ∧ n < 0x10000000000000000) :
    wholeNumber (decide (n < 0)) n.natAbs = .integer n h := by
  by_cases negative : n < 0
  · rw [decide_eq_true negative, wholeNumber, if_pos rfl, dif_pos (by omega)]
    congr 1
    omega
  · rw [decide_eq_false negative, wholeNumber, if_neg Bool.false_ne_true, dif_pos (by omega)]
    congr 1
    omega

theorem integer_readsNumber (n : Int)
    (h : -0x8000000000000000 ≤ n ∧ n < 0x10000000000000000) :
    ReadsNumber (bytesOf (Number.integer n h).write) (.integer n h) := by
  have whole := isWhole_digitChars n.natAbs
  have value := ((AreDigitChars.digitChars n.natAbs).value 0).trans (digitChars_value _)
  rw [Number.write, bytesOf_toString]
  refine readsNumber_of_digits _ ?_ fun tail ends p => ?_
  · have lead := lead_of_isWhole whole []
    rwa [List.append_nil] at lead
  · rw [← wholeNumber_natAbs h]
    exact readNumber_integer whole ends value (by omega) _ p

def Number.reread (n : Number) : Number :=
  match readValue 1 1 (.ofBytes (bytesOf n.write)) with
  | .ok (.number m, _) => m
  | _ => n

theorem ReadsNumber.eq_reread {n m : Number} (h : ReadsNumber (bytesOf n.write) m) :
    n.reread = m := by
  obtain ⟨p', read⟩ := h 0 1 [] (fun _ h => nomatch h) ⟨1, 0⟩
  rw [List.append_nil] at read
  rw [Number.reread, Cursor.ofBytes, read]

@[simp] theorem Number.reread_integer (n : Int)
    (h : -0x8000000000000000 ≤ n ∧ n < 0x10000000000000000) :
    (Number.integer n h).reread = .integer n h :=
  (integer_readsNumber n h).eq_reread

theorem Number.IsFinite.readsNumber {n : Number} (h : n.IsFinite) :
    ReadsNumber (bytesOf n.write) n.reread := by
  cases n with
  | integer n bounds =>
    rw [Number.reread_integer]
    exact integer_readsNumber n bounds
  | real x =>
    obtain ⟨cs, text, lead, reads⟩ := documentText_isNumberText h
    obtain ⟨y, reads⟩ := reads (Decimal.isNegative x)
    have found : ReadsNumber (bytesOf (Number.real x).write) (.real y) := by
      rw [Number.write, text, bytesOf_withSign]
      exact readsNumber_of_digits _ lead reads
    rw [found.eq_reread]
    exact found

theorem Number.IsFinite.lead {n : Number} (h : n.IsFinite) :
    ∃ b r, bytesOf n.write = b :: r ∧ (b = 45 ∨ isDigitByte b = true) := by
  cases n with
  | integer n bounds =>
    have lead := lead_of_isWhole (isWhole_digitChars n.natAbs) []
    rw [List.append_nil] at lead
    rw [Number.write, bytesOf_toString]
    exact lead_of_digits _ lead
  | real x =>
    obtain ⟨cs, text, lead, -⟩ := documentText_isNumberText h
    rw [Number.write, text, bytesOf_withSign]
    exact lead_of_digits _ lead

end SearchQuery.Json
