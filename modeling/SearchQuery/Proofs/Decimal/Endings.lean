import Mathlib.Data.List.Basic
import SearchQuery.Decimal.Reading

/-!
# How numerals end

A text that is read as a finite number ends with a digit or with a point.  So no letter behind it
can be taken for a part of it, though numerals may hold letters.
-/

set_option autoImplicit false
namespace SearchQuery.Decimal

def EndsAsNumeral (cs : List Char) : Prop :=
  ∃ c, cs.getLast? = some c ∧ (isDigit c = true ∨ c = '.')

theorem endsAsNumeral_append (front : List Char) {back : List Char} (filled : back ≠ [])
    (each : ∀ c ∈ back, isDigit c = true ∨ c = '.') : EndsAsNumeral (front ++ back) := by
  refine ⟨back.getLast filled, ?_, each _ (List.getLast_mem filled)⟩
  rw [List.getLast?_append_of_ne_nil _ filled, List.getLast?_eq_some_getLast filled]

theorem mem_takeWhile_isDigit {cs : List Char} {c : Char} (h : c ∈ cs.takeWhile isDigit) :
    isDigit c = true := List.all_eq_true.1 List.all_takeWhile c h

theorem takeSign_split {cs rest : List Char} {negative : Bool}
    (h : takeSign cs = (negative, rest)) : ∃ sign, cs = sign ++ rest := by
  unfold takeSign at h
  split at h
  · cases h
    exact ⟨['-'], rfl⟩
  · cases h
    exact ⟨['+'], rfl⟩
  · cases h
    exact ⟨[], rfl⟩

theorem endsAsNumeral_exponent (front : List Char) {tail : List Char} {e : Int}
    (h : readExponent tail = some e) : tail = [] ∨ EndsAsNumeral (front ++ tail) := by
  cases tail with
  | nil => exact .inl rfl
  | cons c r =>
    refine .inr ?_
    rw [readExponent] at h
    split at h
    · cases signed : takeSign r with
      | mk negative ds =>
        obtain ⟨sign, rfl⟩ := takeSign_split signed
        rw [signed] at h
        dsimp only at h
        split at h
        · cases h
        · rename_i digits
          simp only [Bool.or_eq_true, List.isEmpty_iff, Bool.not_eq_true', not_or,
            Bool.not_eq_false, List.all_eq_true] at digits
          have ends := endsAsNumeral_append (front ++ c :: sign) digits.1 fun d hd =>
            .inl (digits.2 d hd)
          simpa using ends
    · cases h

/-- The number is a word for one that is not finite, or its text ends as a numeral. -/
theorem endsAsNumeral_unsigned {cs : List Char} {x : Float} (h : readUnsigned cs = some x) :
    (x = 1.0 / 0.0 ∨ x = 0.0 / 0.0) ∨ EndsAsNumeral cs := by
  unfold readUnsigned at h
  dsimp only at h
  split at h
  · cases h
    exact .inl (.inl rfl)
  · split at h
    · cases h
      exact .inl (.inr rfl)
    · right
      have whole := List.takeWhile_append_dropWhile (p := isDigit) (l := cs)
      generalize cs.dropWhile isDigit = rest at h whole
      rw [← whole]
      split at h
      · rename_i r
        split at h
        · cases h
        · obtain ⟨e, exponent, -⟩ := Option.map_eq_some_iff.1 h
          have places := List.takeWhile_append_dropWhile (p := isDigit) (l := r)
          rw [← places]
          rcases endsAsNumeral_exponent (cs.takeWhile isDigit ++ '.' :: r.takeWhile isDigit)
            exponent with none | ends
          · rw [none, List.append_nil]
            refine endsAsNumeral_append _ (List.cons_ne_nil _ _) ?_
            rintro c (_ | ⟨_, hc⟩)
            · exact .inr rfl
            · exact .inl (mem_takeWhile_isDigit hc)
          · simpa using ends
      · split at h
        · cases h
        · rename_i present
          obtain ⟨e, exponent, -⟩ := Option.map_eq_some_iff.1 h
          rcases endsAsNumeral_exponent (cs.takeWhile isDigit) exponent with none | ends
          · have digits : cs.takeWhile isDigit ≠ [] := by simpa using present
            rw [none, List.append_nil]
            exact endsAsNumeral_append [] digits fun c hc => .inl (mem_takeWhile_isDigit hc)
          · exact ends

theorem endsAsNumeral_of_read {text : String} {x : Float} (h : read? text = some x)
    (finite : x.isFinite = true) : EndsAsNumeral text.toList := by
  unfold read? at h
  cases signed : takeSign text.toList with
  | mk negative rest =>
    rw [signed] at h
    obtain ⟨y, read, rfl⟩ := Option.map_eq_some_iff.1 h
    rcases endsAsNumeral_unsigned read with word | ends
    · exfalso
      rcases word with rfl | rfl
      · cases negative <;> exact absurd finite (by decide)
      · cases negative <;> exact absurd finite (by decide)
    · obtain ⟨sign, whole⟩ := takeSign_split signed
      obtain ⟨c, last, kind⟩ := ends
      refine ⟨c, ?_, kind⟩
      rw [whole, List.getLast?_append, last]
      rfl

end SearchQuery.Decimal
