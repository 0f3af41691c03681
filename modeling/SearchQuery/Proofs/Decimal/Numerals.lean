import Mathlib.Data.Nat.Digits.Defs
import SearchQuery.Decimal.Reading
import SearchQuery.Proofs.Text.Spans

/-!
# Numerals

How a number is written in decimal: digits with at most one point, a sign in front and an exponent
behind.  Every numeral is read as the number nearest to the fraction that it denotes.
-/

set_option autoImplicit false
namespace SearchQuery.Decimal

abbrev DigitList := List (Fin 10)

def digitChar (d : Fin 10) : Char := Nat.digitChar d

namespace DigitList

def text (ds : DigitList) : List Char := ds.map digitChar

def value (ds : DigitList) : Nat := Nat.ofDigits 10 (ds.map Fin.val).reverse

end DigitList

theorem isDigit_digitChar : ∀ d : Fin 10, isDigit (digitChar d) = true := by decide

theorem toNat_digitChar : ∀ d : Fin 10, (digitChar d).toNat - 48 = d := by decide

theorem isDigit_of_mem_text {ds : DigitList} {c : Char} (h : c ∈ ds.text) : isDigit c = true := by
  obtain ⟨d, -, rfl⟩ := List.mem_map.1 h
  exact isDigit_digitChar d

theorem text_isEmpty (ds : DigitList) : ds.text.isEmpty = ds.isEmpty := List.isEmpty_map

theorem digitsValue_text (ds : DigitList) : digitsValue ds.text = ds.value := by
  rw [DigitList.value, Nat.ofDigits_eq_foldr, List.foldr_reverse, List.foldl_map, DigitList.text,
    digitsValue, List.foldl_map]
  congr 1
  funext n d
  rw [toNat_digitChar]
  exact Nat.add_comm _ _

theorem takeWhile_text (ds : DigitList) {tail : List Char}
    (stop : ∀ c ∈ tail.head?, isDigit c = false) :
    (ds.text ++ tail).takeWhile isDigit = ds.text ∧ (ds.text ++ tail).dropWhile isDigit = tail := by
  have digits : ∀ c ∈ ds.text, isDigit c = true := fun c h => isDigit_of_mem_text h
  exact ⟨takeWhile_append_stop digits stop, dropWhile_append_stop digits stop⟩

/-- Digits with or without a point, one digit at least. -/
structure Numeral where
  whole : DigitList
  places : Option DigitList
  someDigit : whole ≠ [] ∨ places.getD [] ≠ []

namespace Numeral

def text (n : Numeral) : List Char :=
  n.whole.text ++
    match n.places with
    | none => []
    | some ds => '.' :: ds.text

def coefficient (n : Numeral) : Nat := DigitList.value (n.whole ++ n.places.getD [])

def scale (n : Numeral) : Nat := (n.places.getD []).length

def toFloat (n : Numeral) : Float := nearest n.coefficient (-n.scale)

theorem mem_text {n : Numeral} {c : Char} (h : c ∈ n.text) : isDigit c = true ∨ c = '.' := by
  rw [text, List.mem_append] at h
  rcases h with h | h
  · exact .inl (isDigit_of_mem_text h)
  · cases places : n.places with
    | none =>
      rw [places] at h
      cases h
    | some ds =>
      rw [places] at h
      rcases List.mem_cons.1 h with rfl | h
      · exact .inr rfl
      · exact .inl (isDigit_of_mem_text h)

theorem text_ne_nil (n : Numeral) : n.text ≠ [] := by
  obtain ⟨whole, places, someDigit⟩ := n
  intro empty
  rw [text, List.append_eq_nil_iff] at empty
  cases places with
  | none => exact someDigit.elim (fun h => h (List.map_eq_nil_iff.1 empty.1)) fun h => h rfl
  | some ds => cases empty.2

end Numeral

theorem readExponent_stop {tail : List Char} {e : Int} (h : readExponent tail = some e) :
    ∀ c ∈ tail.head?, isDigit c = false ∧ c ≠ '.' := by
  cases tail with
  | nil => simp
  | cons c r =>
    rintro d ⟨⟩
    rw [readExponent] at h
    split at h
    · rename_i mark
      rcases mark with rfl | rfl
      · decide
      · decide
    · cases h

theorem lower_ne_word {c : Char} {r : List Char} (h : isDigit c = true ∨ c = '.') :
    let word := String.ofList ((c :: r).map Char.toLower)
    word ≠ "inf" ∧ word ≠ "infinity" ∧ word ≠ "nan" := by
  have other : c.toLower ≠ 'i' ∧ c.toLower ≠ 'n' := by
    rcases h with h | rfl
    · have bounds : 48 ≤ c.toNat ∧ c.toNat ≤ 57 := by
        rw [isDigit, Bool.and_eq_true, decide_eq_true_iff, decide_eq_true_iff] at h
        exact h
      have same : c.toLower = c := by
        unfold Char.toLower
        rw [dif_neg]
        rintro ⟨lower, -⟩
        have : 65 ≤ c.toNat := lower
        omega
      rw [same]
      refine ⟨?_, ?_⟩
      · rintro rfl
        exact absurd bounds.2 (by decide)
      · rintro rfl
        exact absurd bounds.2 (by decide)
    · decide
  have first {d : Char} {word : String} {s : List Char} (hword : word = String.ofList (d :: s))
      (hd : c.toLower ≠ d) : String.ofList ((c :: r).map Char.toLower) ≠ word := by
    rintro same
    rw [hword, String.ofList_inj] at same
    exact hd (List.cons.inj same).1
  exact ⟨first (s := ['n', 'f']) rfl other.1,
    first (s := ['n', 'f', 'i', 'n', 'i', 't', 'y']) rfl other.1,
    first (s := ['a', 'n']) rfl other.2⟩

theorem readUnsigned_text (n : Numeral) {tail : List Char} {e : Int}
    (h : readExponent tail = some e) :
    readUnsigned (n.text ++ tail) = some (nearest n.coefficient (e - n.scale)) := by
  have stop := readExponent_stop h
  have word : let word := String.ofList ((n.text ++ tail).map Char.toLower)
      word ≠ "inf" ∧ word ≠ "infinity" ∧ word ≠ "nan" := by
    cases written : n.text with
    | nil => exact absurd written n.text_ne_nil
    | cons c r => exact lower_ne_word (n.mem_text (by rw [written]; exact List.mem_cons_self))
  unfold readUnsigned
  dsimp only
  rw [if_neg (not_or.2 ⟨word.1, word.2.1⟩), if_neg word.2.2]
  clear word
  obtain ⟨whole, places, someDigit⟩ := n
  cases places with
  | none =>
    have written : (Numeral.mk whole none someDigit).text ++ tail = whole.text ++ tail := by
      rw [Numeral.text, List.append_nil]
    obtain ⟨hwhole, hrest⟩ := takeWhile_text whole fun c hc => (stop c hc).1
    have present : whole.text.isEmpty = false := by
      rw [text_isEmpty, List.isEmpty_eq_false_iff]
      exact someDigit.resolve_right fun h => h rfl
    have noPoint : ∀ r, tail ≠ '.' :: r := by
      rintro r rfl
      exact (stop '.' rfl).2 rfl
    rw [written, hrest, hwhole]
    split
    · exact absurd rfl (noPoint _)
    · have coefficient : (Numeral.mk whole none someDigit).coefficient = whole.value :=
        congrArg DigitList.value (List.append_nil whole)
      rw [List.takeWhile_nil, List.append_nil, present, Bool.false_and, if_neg Bool.false_ne_true,
        h, digitsValue_text, coefficient]
      rfl
  | some ds =>
    have written : (Numeral.mk whole (some ds) someDigit).text ++ tail =
        whole.text ++ '.' :: (ds.text ++ tail) := by
      rw [Numeral.text, List.append_assoc, List.cons_append]
    have point : ∀ c ∈ ('.' :: (ds.text ++ tail)).head?, isDigit c = false := by
      rintro c ⟨⟩
      decide
    obtain ⟨hwhole, hrest⟩ := takeWhile_text whole point
    obtain ⟨hplaces, htail⟩ := takeWhile_text ds fun c hc => (stop c hc).1
    have present : (whole.text.isEmpty && ds.text.isEmpty) = false := by
      rw [text_isEmpty, text_isEmpty, Bool.and_eq_false_iff, List.isEmpty_eq_false_iff,
        List.isEmpty_eq_false_iff]
      exact someDigit
    have digits : whole.text ++ ds.text = DigitList.text (whole ++ ds) := List.map_append.symm
    have count : ds.text.length = ds.length := List.length_map _
    rw [written, hrest, hwhole]
    split
    · rename_i r same
      obtain rfl := (List.cons.inj same).2
      rw [hplaces, htail, present, h, digits, digitsValue_text, count]
      rfl
    · rename_i other
      exact absurd rfl (other _)

inductive Mark where
  | none | plus | minus
  deriving DecidableEq

namespace Mark

def text : Mark → List Char
  | none => []
  | plus => ['+']
  | minus => ['-']

def isNegative : Mark → Bool
  | minus => true
  | _ => false

end Mark

theorem takeSign_text (mark : Mark) {cs : List Char}
    (unsigned : ∀ c ∈ cs.head?, c ≠ '-' ∧ c ≠ '+') :
    takeSign (mark.text ++ cs) = (mark.isNegative, cs) := by
  cases mark with
  | plus => rfl
  | minus => rfl
  | none =>
    cases cs with
    | nil => rfl
    | cons c r =>
      obtain ⟨minus, plus⟩ := unsigned c rfl
      change takeSign (c :: r) = (false, c :: r)
      unfold takeSign
      split
      · rename_i same
        exact absurd (List.cons.inj same).1 minus
      · rename_i same
        exact absurd (List.cons.inj same).1 plus
      · rfl

structure Exponent where
  capital : Bool
  mark : Mark
  digits : DigitList
  someDigit : digits ≠ []

namespace Exponent

def text (e : Exponent) : List Char :=
  (if e.capital then 'E' else 'e') :: e.mark.text ++ e.digits.text

def value (e : Exponent) : Int :=
  if e.mark.isNegative then -(e.digits.value : Int) else e.digits.value

theorem read_text (e : Exponent) : readExponent e.text = some e.value := by
  have unsigned : ∀ c ∈ e.digits.text.head?, c ≠ '-' ∧ c ≠ '+' := by
    intro c hc
    have digit := isDigit_of_mem_text (List.mem_of_head? hc)
    refine ⟨?_, ?_⟩
    · rintro rfl
      exact absurd digit (by decide)
    · rintro rfl
      exact absurd digit (by decide)
  have present : e.digits.text.isEmpty = false := by
    rw [text_isEmpty, List.isEmpty_eq_false_iff]
    exact e.someDigit
  have digits : e.digits.text.all isDigit = true :=
    List.all_eq_true.2 fun c hc => isDigit_of_mem_text hc
  have mark : (if e.capital then 'E' else 'e') = 'e' ∨
      (if e.capital then 'E' else 'e') = 'E' := by
    cases e.capital
    · exact .inl rfl
    · exact .inr rfl
  rw [text, List.cons_append, readExponent, if_pos mark, takeSign_text e.mark unsigned]
  dsimp only
  rw [present, digits, digitsValue_text, value]
  rfl

end Exponent

/-- A numeral with a sign and an exponent, both of which may be missing. -/
structure SignedNumeral where
  mark : Mark
  magnitude : Numeral
  exponent : Option Exponent

namespace SignedNumeral

def text (n : SignedNumeral) : List Char :=
  n.mark.text ++ n.magnitude.text ++
    match n.exponent with
    | none => []
    | some e => e.text

def toFloat (n : SignedNumeral) : Float :=
  let shift := match n.exponent with
    | none => 0
    | some e => e.value
  let x := nearest n.magnitude.coefficient (shift - n.magnitude.scale)
  if n.mark.isNegative then -x else x

theorem read_text (n : SignedNumeral) : read? (String.ofList n.text) = some n.toFloat := by
  obtain ⟨mark, magnitude, exponent⟩ := n
  have unsigned (tail : List Char) : ∀ c ∈ (magnitude.text ++ tail).head?, c ≠ '-' ∧ c ≠ '+' := by
    cases written : magnitude.text with
    | nil => exact absurd written magnitude.text_ne_nil
    | cons c r =>
      have first := magnitude.mem_text (by rw [written]; exact List.mem_cons_self)
      rintro d ⟨⟩
      refine ⟨?_, ?_⟩
      · rintro rfl
        exact absurd first (by decide)
      · rintro rfl
        exact absurd first (by decide)
  cases exponent with
  | none =>
    have tail : readExponent [] = some 0 := rfl
    rw [read?, String.toList_ofList, text, List.append_assoc, takeSign_text mark (unsigned _)]
    dsimp only
    rw [readUnsigned_text magnitude tail]
    rfl
  | some e =>
    rw [read?, String.toList_ofList, text, List.append_assoc, takeSign_text mark (unsigned _)]
    dsimp only
    rw [readUnsigned_text magnitude e.read_text]
    rfl

theorem text_ne_nil (n : SignedNumeral) : n.text ≠ [] := by
  intro empty
  rw [text, List.append_eq_nil_iff, List.append_eq_nil_iff] at empty
  exact n.magnitude.text_ne_nil empty.1.2

theorem mem_text {n : SignedNumeral} {c : Char} (h : c ∈ n.text) :
    isDigit c = true ∨ c ∈ ['.', '+', '-', 'e', 'E'] := by
  have ofMark {mark : Mark} (h : c ∈ mark.text) : c ∈ ['.', '+', '-', 'e', 'E'] := by
    cases mark with
    | none => cases h
    | plus => cases List.mem_singleton.1 h; decide
    | minus => cases List.mem_singleton.1 h; decide
  rw [text, List.mem_append, List.mem_append] at h
  rcases h with (h | h) | h
  · exact .inr (ofMark h)
  · rcases n.magnitude.mem_text h with digit | rfl
    · exact .inl digit
    · exact .inr List.mem_cons_self
  · cases exponent : n.exponent with
    | none =>
      rw [exponent] at h
      cases h
    | some e =>
      rw [exponent] at h
      rcases List.mem_cons.1 h with rfl | h
      · refine .inr ?_
        cases e.capital
        · decide
        · decide
      · rcases List.mem_append.1 h with h | h
        · exact .inr (ofMark h)
        · exact .inl (isDigit_of_mem_text h)

end SignedNumeral

theorem Numeral.read_text (n : Numeral) : read? (String.ofList n.text) = some n.toFloat := by
  have written : (SignedNumeral.mk .none n none).text = n.text := List.append_nil n.text
  have same : (SignedNumeral.mk .none n none).toFloat = n.toFloat := by
    change nearest n.coefficient (0 - n.scale) = nearest n.coefficient (-n.scale)
    rw [Int.zero_sub]
  rw [← written, SignedNumeral.read_text, same]

end SearchQuery.Decimal
