import Mathlib.Data.List.Sort
import SearchQuery.Text.TermSet

/-!
# Texts as bytes

A text is stored as the bytes of its characters.  The first byte of a character that takes more
bytes is greater, so the order of texts is the order of their bytes.
-/

set_option autoImplicit false
namespace SearchQuery

def encodeChars (cs : List Char) : List UInt8 := cs.flatMap String.utf8EncodeChar

def bytesOf (s : String) : List UInt8 := s.toByteArray.data.toList

theorem bytesOf_ofList (cs : List Char) : bytesOf (String.ofList cs) = encodeChars cs := by
  rw [bytesOf, String.toByteArray_ofList]
  exact List.toList_data_toByteArray

theorem bytesOf_eq (s : String) : bytesOf s = encodeChars s.toList := by
  rw [← bytesOf_ofList, String.ofList_toList]

theorem bytesOf_append (s t : String) : bytesOf (s ++ t) = bytesOf s ++ bytesOf t := by
  rw [bytesOf_eq, bytesOf_eq, bytesOf_eq, String.toList_append]
  exact List.flatMap_append

theorem lex_bytes {a b : Nat} {x y : List UInt8} (le : a ≤ b) (small : b < 256)
    (same : a = b → List.Lex (· < ·) x y) :
    List.Lex (· < ·) (UInt8.ofNat a :: x) (UInt8.ofNat b :: y) := by
  rcases Nat.lt_or_eq_of_le le with lt | rfl
  · refine .rel (UInt8.lt_iff_toNat_lt.2 ?_)
    rwa [UInt8.toNat_ofNat', UInt8.toNat_ofNat', Nat.mod_eq_of_lt (Nat.lt_trans lt small),
      Nat.mod_eq_of_lt small]
  · exact .cons (same rfl)

theorem utf8EncodeChar_lex {c d : Char} (h : c < d) (x y : List UInt8) :
    List.Lex (· < ·) (String.utf8EncodeChar c ++ x) (String.utf8EncodeChar d ++ y) := by
  have lt : c.val.toNat < d.val.toNat := h
  have top : d.val.toNat < 0x110000 := by
    rcases d.valid with low | ⟨-, high⟩
    · exact Nat.lt_trans low (by decide)
    · exact high
  unfold String.utf8EncodeChar
  dsimp only
  generalize c.val.toNat = m at lt
  generalize d.val.toNat = n at lt top
  -- By the number of bytes of each: a longer one begins with a greater byte.
  split
  · split
    · exact lex_bytes (by omega) (by omega) (by omega)
    · split
      · exact lex_bytes (by omega) (by omega) (by omega)
      · split
        · exact lex_bytes (by omega) (by omega) (by omega)
        · exact lex_bytes (by omega) (by omega) (by omega)
  · rw [if_neg (by omega : ¬ n ≤ 0x7f)]
    split
    · split
      · exact lex_bytes (by omega) (by omega) fun _ =>
          lex_bytes (by omega) (by omega) (by omega)
      · split
        · exact lex_bytes (by omega) (by omega) (by omega)
        · exact lex_bytes (by omega) (by omega) (by omega)
    · rw [if_neg (by omega : ¬ n ≤ 0x7ff)]
      split
      · split
        · exact lex_bytes (by omega) (by omega) fun _ =>
            lex_bytes (by omega) (by omega) fun _ =>
              lex_bytes (by omega) (by omega) (by omega)
        · exact lex_bytes (by omega) (by omega) (by omega)
      · rw [if_neg (by omega : ¬ n ≤ 0xffff)]
        exact lex_bytes (by omega) (by omega) fun _ => lex_bytes (by omega) (by omega) fun _ =>
          lex_bytes (by omega) (by omega) fun _ => lex_bytes (by omega) (by omega) (by omega)

theorem encodeChars_lex {cs ds : List Char} (h : List.Lex (· < ·) cs ds) :
    List.Lex (· < ·) (encodeChars cs) (encodeChars ds) := by
  induction h with
  | @nil d ds =>
    cases bytes : String.utf8EncodeChar d with
    | nil =>
      have size := congrArg List.length bytes
      rw [String.length_utf8EncodeChar] at size
      exact absurd size (Nat.ne_of_gt d.utf8Size_pos)
    | cons b rest =>
      rw [encodeChars, encodeChars, List.flatMap_cons, bytes]
      exact .nil
  | @cons c cs ds _ ih =>
    rw [encodeChars, encodeChars, List.flatMap_cons, List.flatMap_cons]
    exact List.append_left_lt ih
  | rel h => exact utf8EncodeChar_lex h _ _

/-- Texts are ordered as their bytes are. -/
theorem lt_iff_bytesOf_lt {s t : String} : s < t ↔ bytesOf s < bytesOf t := by
  rw [bytesOf_eq, bytesOf_eq]
  constructor
  · intro h
    exact encodeChars_lex h
  · intro h
    refine Decidable.byContradiction fun le => ?_
    rcases Decidable.em (t < s) with gt | ge
    · exact List.lt_asymm h (encodeChars_lex gt)
    · have same : s = t := String.le_antisymm (String.not_lt.1 ge) (String.not_lt.1 le)
      exact List.lt_irrefl _ (same ▸ h)

theorem eq_of_mem_iff_ascending {α : Type} {key : α → String} {a b : List α}
    (ha : a.Pairwise fun x y => key x < key y) (hb : b.Pairwise fun x y => key x < key y)
    (same : ∀ x, x ∈ a ↔ x ∈ b) : a = b := by
  have : Std.Irrefl fun x y : α => key x < key y := ⟨fun x => String.lt_irrefl (key x)⟩
  have : Std.Antisymm fun x y : α => key x < key y :=
    ⟨fun x _ lt gt => absurd (String.lt_trans lt gt) (String.lt_irrefl (key x))⟩
  exact List.Pairwise.eq_of_mem_iff ha hb fun x => same x

theorem TermSet.ext {a b : TermSet} (same : ∀ t, t ∈ a.toList ↔ t ∈ b.toList) : a = b := by
  have members : a.toList = b.toList := eq_of_mem_iff_ascending a.ascending b.ascending same
  cases a
  cases b
  cases members
  rfl

end SearchQuery
