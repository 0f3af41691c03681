import SearchQuery.Text.Blank

/-!
# Spans of characters

A span of characters of one kind ends where a character of another kind stands, or with the text.
-/

set_option autoImplicit false
namespace SearchQuery

section Spans
variable {α : Type} {p : α → Bool} {xs tail : List α}

theorem takeWhile_append_stop (all : ∀ x ∈ xs, p x = true) (stop : ∀ x ∈ tail.head?, p x = false) :
    (xs ++ tail).takeWhile p = xs := by
  rw [List.takeWhile_append_of_pos all]
  cases tail with
  | nil => simp
  | cons x rest => simp [stop x rfl]

theorem dropWhile_append_stop (all : ∀ x ∈ xs, p x = true) (stop : ∀ x ∈ tail.head?, p x = false) :
    (xs ++ tail).dropWhile p = tail := by
  rw [List.dropWhile_append_of_pos all]
  cases tail with
  | nil => rfl
  | cons x rest => simp [stop x rfl]

theorem drop_takeWhile (p : α → Bool) (xs : List α) :
    xs.drop (xs.takeWhile p).length = xs.dropWhile p := by
  induction xs with
  | nil => rfl
  | cons x rest ih => cases h : p x <;> simp [h, ih]

end Spans

theorem trimChars_eq_self {cs : List Char} (h : ∀ c ∈ cs, isBlank c = false) :
    trimChars cs = cs := by
  have same (ds : List Char) (h : ∀ c ∈ ds, isBlank c = false) : ds.dropWhile isBlank = ds := by
    cases ds with
    | nil => rfl
    | cons c rest => simp [h c List.mem_cons_self]
  have reversed : ∀ c ∈ cs.reverse, isBlank c = false := by simpa using h
  rw [trimChars, same cs h, same cs.reverse reversed, List.reverse_reverse]

theorem byteLength_eq (cs : List Char) : byteLength cs = (String.ofList cs).utf8ByteSize := by
  induction cs with
  | nil => rfl
  | cons c rest ih => simp [byteLength, String.ofList_cons, String.utf8ByteSize_append, ih]

end SearchQuery
