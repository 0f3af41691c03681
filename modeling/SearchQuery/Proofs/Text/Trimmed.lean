import Mathlib.Data.List.DropRight
import SearchQuery.Proofs.Text.Spans

/-!
# Texts without white space around them

Trimming a text leaves a part of it with no white space at either end, and takes away nothing but
white space.
-/

set_option autoImplicit false
namespace SearchQuery

theorem isBlank_eq_false {c : Char} (low : 0x20 < c.toNat) (high : c.toNat < 0x85) :
    isBlank c = false := by
  simp [isBlank, whiteSpace, CodePoints.contains]
  omega

def BeginsDark (cs : List Char) : Prop := ∀ c ∈ cs.head?, isBlank c = false

structure IsTrimmed (cs : List Char) : Prop where
  head : BeginsDark cs
  last : ∀ c ∈ cs.getLast?, isBlank c = false

theorem trimChars_eq (cs : List Char) :
    trimChars cs = (cs.dropWhile isBlank).rdropWhile isBlank := rfl

theorem BeginsDark.dropWhile_eq {cs : List Char} (h : BeginsDark cs) :
    cs.dropWhile isBlank = cs := by
  cases cs with
  | nil => rfl
  | cons c rest => simp [h c rfl]

theorem BeginsDark.of_append {front back : List Char} (h : BeginsDark (front ++ back)) :
    BeginsDark front := by
  cases front with
  | nil => simp [BeginsDark]
  | cons c rest => exact h

theorem isTrimmed_trimChars (cs : List Char) : IsTrimmed (trimChars cs) := by
  constructor
  · obtain ⟨blanks, parts⟩ := List.rdropWhile_prefix isBlank (cs.dropWhile isBlank)
    refine BeginsDark.of_append (?_ : BeginsDark (trimChars cs ++ blanks))
    rw [trimChars_eq, parts]
    intro c hc
    have head := List.head?_dropWhile_not isBlank cs
    rwa [Option.mem_def.1 hc] at head
  · intro c hc
    obtain ⟨filled, rfl⟩ := List.mem_getLast?_eq_getLast hc
    exact Bool.eq_false_iff.2 (List.rdropWhile_last_not isBlank _ filled)

theorem trimChars_append {cs blanks : List Char} (h : IsTrimmed cs)
    (blank : ∀ c ∈ blanks, isBlank c = true) : trimChars (cs ++ blanks) = cs := by
  by_cases empty : cs = []
  · have none : blanks.dropWhile isBlank = [] := List.dropWhile_eq_nil_iff.2 blank
    rw [empty, List.nil_append, trimChars_eq, none, List.rdropWhile_nil]
  · have begins : BeginsDark (cs ++ blanks) := by
      rw [BeginsDark, List.head?_append_of_ne_nil _ empty]
      exact h.head
    have ends : (blanks.reverse ++ cs.reverse).dropWhile isBlank = cs.reverse :=
      dropWhile_append_stop (by simpa using blank) (by simpa using h.last)
    rw [trimChars_eq, begins.dropWhile_eq, List.rdropWhile, List.reverse_append, ends,
      List.reverse_reverse]

theorem IsTrimmed.trimChars_eq {cs : List Char} (h : IsTrimmed cs) : trimChars cs = cs := by
  have nothing : ∀ c ∈ ([] : List Char), isBlank c = true := by simp
  have same := trimChars_append h nothing
  rwa [List.append_nil] at same

/-- Of a text that begins without white space, only white space at its end is taken away. -/
theorem eq_trimChars_append {cs : List Char} (h : BeginsDark cs) :
    ∃ blanks, cs = trimChars cs ++ blanks ∧ ∀ c ∈ blanks, isBlank c = true := by
  refine ⟨cs.rtakeWhile isBlank, ?_, fun c => List.mem_rtakeWhile_imp⟩
  rw [trimChars_eq, h.dropWhile_eq, List.rdropWhile_append_rtakeWhile]

end SearchQuery
