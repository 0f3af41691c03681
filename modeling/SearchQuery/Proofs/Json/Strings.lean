import SearchQuery.Proofs.Json.NumberTexts

/-!
# Reading the strings of a document

Quotes, backslashes and control characters are escaped in the text of a string, and the reader
takes every escape back.  The bytes of all other characters stand for themselves.
-/

set_option autoImplicit false
namespace SearchQuery.Json

def ArePlain (bytes : List UInt8) : Prop := ∀ b ∈ bytes, 32 ≤ b.toNat ∧ b ≠ 34 ∧ b ≠ 92

theorem readString_plain {bytes : List UInt8} (h : ArePlain bytes) (done tail : List UInt8)
    (p : Position) : ∃ p', readString done p (bytes ++ tail) =
      readString (bytes.reverse ++ done) p' tail := by
  induction bytes generalizing done p with
  | nil => exact ⟨p, rfl⟩
  | cons b bytes ih =>
    obtain ⟨printable, quote, backslash⟩ := h b List.mem_cons_self
    obtain ⟨p', rest⟩ := ih (fun c hc => h c (List.mem_cons_of_mem b hc)) (b :: done) (p.advance b)
    have control : ¬ b < 32 := fun low => Nat.not_lt.2 printable (UInt8.lt_iff_toNat_lt.1 low)
    refine ⟨p', ?_⟩
    rw [List.cons_append, readString, if_neg quote, if_neg control, rest, List.reverse_cons,
      List.append_assoc]
    · rfl
    · exact backslash

theorem readString_escape {e b : UInt8} (h : simpleEscape? e = some b) (done tail : List UInt8)
    (p : Position) :
    ∃ p', readString done p (92 :: e :: tail) = readString (b :: done) p' tail := by
  refine ⟨(p.advance 92).advance e, ?_⟩
  rw [readString, h]
  rintro rfl
  cases h

theorem hexQuad_control : ∀ n : Fin 32,
    let a := UInt8.ofNat (Nat.digitChar (n / 16)).toNat
    let b := UInt8.ofNat (Nat.digitChar (n % 16)).toNat
    encodeChars (hexPair n) = [a, b] ∧ hexQuad? 48 48 a b = some n.val := by
  decide

theorem readString_control {n : Nat} (h : n < 32) (done tail : List UInt8) (p : Position) :
    ∃ p', readString done p (encodeChars ('\\' :: 'u' :: '0' :: '0' :: hexPair n) ++ tail) =
      readString ((utf8Bytes n).reverse ++ done) p' tail := by
  obtain ⟨pair, quad⟩ := hexQuad_control ⟨n, h⟩
  generalize UInt8.ofNat (Nat.digitChar (n / 16)).toNat = a at pair quad
  generalize UInt8.ofNat (Nat.digitChar (n % 16)).toNat = b at pair quad
  have bytes : encodeChars ('\\' :: 'u' :: '0' :: '0' :: hexPair n) ++ tail =
      92 :: 117 :: 48 :: 48 :: a :: b :: tail := by
    change 92 :: 117 :: 48 :: 48 :: encodeChars (hexPair n) ++ tail = _
    rw [pair]
    rfl
  refine ⟨(((((p.advance 92).advance 117).advance 48).advance 48).advance a).advance b, ?_⟩
  rw [bytes, readString, quad]
  dsimp only
  rw [if_neg (by omega), if_pos (by omega)]

theorem utf8Bytes_toNat (c : Char) : utf8Bytes c.toNat = String.utf8EncodeChar c := by
  rw [utf8Bytes, Char.ofNat_toNat]
  exact (bytesOf_ofList [c]).trans (List.append_nil _)

theorem arePlain_of_high {bytes : List UInt8} (h : ∀ b ∈ bytes, 128 ≤ b.toNat) :
    ArePlain bytes := by
  intro b hb
  have high := h b hb
  refine ⟨by omega, ?_, ?_⟩
  · rintro rfl
    exact absurd high (by decide)
  · rintro rfl
    exact absurd high (by decide)

theorem arePlain_utf8EncodeChar {c : Char} (printable : ¬ c.toNat < 32) (quote : c ≠ '"')
    (backslash : c ≠ '\\') : ArePlain (String.utf8EncodeChar c) := by
  by_cases ascii : c.toNat < 128
  · rw [utf8EncodeChar_ascii ascii]
    intro b hb
    rw [List.mem_singleton.1 hb]
    have value : (UInt8.ofNat c.toNat).toNat = c.toNat := by
      rw [UInt8.toNat_ofNat', Nat.mod_eq_of_lt (by omega)]
    refine ⟨by omega, fun same => quote ?_, fun same => backslash ?_⟩
    · rw [same] at value
      exact Char.toNat_inj.1 value.symm
    · rw [same] at value
      exact Char.toNat_inj.1 value.symm
  · have ascii : ¬ c.val.toNat ≤ 127 := fun h => ascii (Nat.lt_succ_of_le h)
    refine arePlain_of_high fun b hb => ?_
    have high {n : Nat} (low : 128 ≤ n) (small : n < 256) : 128 ≤ (UInt8.ofNat n).toNat := by
      rwa [UInt8.toNat_ofNat', Nat.mod_eq_of_lt small]
    unfold String.utf8EncodeChar at hb
    dsimp only at hb
    rw [if_neg ascii] at hb
    split at hb
    · simp only [List.mem_cons, List.not_mem_nil, or_false] at hb
      rcases hb with rfl | rfl <;> exact high (by omega) (by omega)
    · split at hb
      · simp only [List.mem_cons, List.not_mem_nil, or_false] at hb
        rcases hb with rfl | rfl | rfl <;> exact high (by omega) (by omega)
      · simp only [List.mem_cons, List.not_mem_nil, or_false] at hb
        rcases hb with rfl | rfl | rfl | rfl <;> exact high (by omega) (by omega)

theorem readString_writeChar (c : Char) (done tail : List UInt8) (p : Position) :
    ∃ p', readString done p (encodeChars (writeChar c) ++ tail) =
      readString ((String.utf8EncodeChar c).reverse ++ done) p' tail := by
  by_cases quote : c = '"'
  · rw [quote]
    exact readString_escape (e := 34) rfl done tail p
  by_cases backslash : c = '\\'
  · rw [backslash]
    exact readString_escape (e := 92) rfl done tail p
  by_cases newline : c = '\n'
  · rw [newline]
    exact readString_escape (e := 110) rfl done tail p
  by_cases carriage : c = '\r'
  · rw [carriage]
    exact readString_escape (e := 114) rfl done tail p
  by_cases tab : c = '\t'
  · rw [tab]
    exact readString_escape (e := 116) rfl done tail p
  by_cases backspace : c = '\x08'
  · rw [backspace]
    exact readString_escape (e := 98) rfl done tail p
  by_cases feed : c = '\x0c'
  · rw [feed]
    exact readString_escape (e := 102) rfl done tail p
  rw [writeChar, if_neg quote, if_neg backslash, if_neg newline, if_neg carriage, if_neg tab,
    if_neg backspace, if_neg feed]
  split
  · rename_i control
    rw [← utf8Bytes_toNat]
    exact readString_control control done tail p
  · rename_i printable
    rw [encodeChars, List.flatMap_singleton]
    exact readString_plain (arePlain_utf8EncodeChar printable quote backslash) done tail p

theorem readString_text (cs : List Char) (done tail : List UInt8) (p : Position) :
    ∃ p', readString done p (encodeChars (cs.flatMap writeChar) ++ tail) =
      readString ((encodeChars cs).reverse ++ done) p' tail := by
  induction cs generalizing done p with
  | nil => exact ⟨p, rfl⟩
  | cons c cs ih =>
    obtain ⟨p₁, first⟩ := readString_writeChar c done (encodeChars (cs.flatMap writeChar) ++ tail) p
    obtain ⟨p₂, rest⟩ := ih ((String.utf8EncodeChar c).reverse ++ done) p₁
    refine ⟨p₂, ?_⟩
    rw [List.flatMap_cons, encodeChars_append, List.append_assoc, first, rest, encodeChars,
      encodeChars, List.flatMap_cons, List.reverse_append, List.append_assoc]

theorem fromUTF8_bytesOf (s : String) : String.fromUTF8? ⟨(bytesOf s).toArray⟩ = some s := by
  have bytes : ByteArray.mk (bytesOf s).toArray = s.toByteArray := by
    rw [bytesOf, Array.toArray_toList]
  rw [bytes, String.fromUTF8?, dif_pos s.isValidUTF8]
  rfl

theorem bytesOf_writeString (s : String) :
    bytesOf (writeString s) = 34 :: (encodeChars (s.toList.flatMap writeChar) ++ [34]) := by
  rw [writeString, bytesOf_ofList, encodeChars_append]
  rfl

/-- A string is read from its text, whatever follows it. -/
theorem string_writeString (s : String) (tail : List UInt8) (p : Position) :
    ∃ p', Cursor.string ⟨bytesOf (writeString s) ++ tail, p⟩ = .ok (s, ⟨tail, p'⟩) := by
  obtain ⟨p', read⟩ := readString_text s.toList [] (34 :: tail) (p.advance 34)
  refine ⟨p'.advance 34, ?_⟩
  have next : Cursor.next ⟨bytesOf (writeString s) ++ tail, p⟩ =
      ⟨encodeChars (s.toList.flatMap writeChar) ++ 34 :: tail, p.advance 34⟩ := by
    rw [bytesOf_writeString, List.cons_append, List.append_assoc]
    rfl
  rw [Cursor.string, next, read, List.append_nil, ← bytesOf_eq]
  have closed : readString (bytesOf s).reverse p' (34 :: tail) =
      finishString (bytesOf s).reverse ⟨34 :: tail, p'⟩ := by
    rw [readString]
    · rfl
    · decide
  rw [closed, finishString, List.reverse_reverse, fromUTF8_bytesOf]
  rfl

end SearchQuery.Json
