import SearchQuery.Pattern.Regex

/-!
# What expressions match

The parts of a text that an expression matches, without a strategy for finding them.  Main
statement: the places that are followed all at once are those where such a part ends.
-/

set_option autoImplicit false
namespace SearchQuery.Regex

def Steps (R : Nat → Nat → Prop) : Nat → Nat → Nat → Prop
  | 0, i, j => i = j
  | n + 1, i, j => ∃ k, R i k ∧ Steps R n k j

mutual

/-- The expression matches the part of the text between two places.  A maximum below the minimum,
which no pattern has, counts as the minimum. -/
def Spans (text : Array Char) : Regex → Nat → Nat → Prop
  | one accepts => fun i j => text[i]?.any accepts = true ∧ j = i + 1
  | place holds => fun i j => holds (before text i) text[i]? = true ∧ j = i
  | sequence parts => SpansAll text parts
  | choice branches => SpansAny text branches
  | repetition body min max => fun i j =>
    ∃ more, (∀ m ∈ max, more ≤ m - min) ∧ Steps (Spans text body) (min + more) i j

def SpansAll (text : Array Char) : List Regex → Nat → Nat → Prop
  | [] => fun i j => i = j
  | r :: rest => fun i j => ∃ k, Spans text r i k ∧ SpansAll text rest k j

def SpansAny (text : Array Char) : List Regex → Nat → Nat → Prop
  | [] => fun _ _ => False
  | r :: rest => fun i j => Spans text r i j ∨ SpansAny text rest i j

end

/-- The expression matches a text from its beginning to its end. -/
def MatchesWhole (r : Regex) (text : String) : Prop :=
  r.Spans text.toList.toArray 0 text.toList.length

def Forward (size : Nat) (R : Nat → Nat → Prop) : Prop :=
  ∀ i j, R i j → i ≤ j ∧ (i < j → j ≤ size)

section Steps
variable {R : Nat → Nat → Prop} {size : Nat}

theorem steps_add {m n i j : Nat} :
    Steps R (m + n) i j ↔ ∃ k, Steps R m i k ∧ Steps R n k j := by
  induction m generalizing i with
  | zero =>
    rw [Nat.zero_add]
    constructor
    · intro h
      exact ⟨i, rfl, h⟩
    · rintro ⟨k, rfl, h⟩
      exact h
  | succ m ih =>
    rw [Nat.succ_add]
    constructor
    · rintro ⟨k, first, h⟩
      obtain ⟨l, left, right⟩ := ih.1 h
      exact ⟨l, ⟨k, first, left⟩, right⟩
    · rintro ⟨l, ⟨k, first, left⟩, right⟩
      exact ⟨k, first, ih.2 ⟨l, left, right⟩⟩

theorem Forward.steps (h : Forward size R) (n : Nat) : Forward size (Steps R n) := by
  induction n with
  | zero =>
    rintro i j rfl
    exact ⟨Nat.le_refl i, fun less => absurd less (Nat.lt_irrefl i)⟩
  | succ n ih =>
    rintro i j ⟨k, first, rest⟩
    have left := h i k first
    have right := ih k j rest
    refine ⟨by omega, fun less => ?_⟩
    by_cases last : k < j
    · exact right.2 last
    · have arrived : k = j := by omega
      rw [← arrived] at less ⊢
      exact left.2 less

/-- More steps than there are places hold one that leads nowhere, which can be left out. -/
theorem Forward.shorten (h : Forward size R) {n i j : Nat} (many : size - i ≤ n)
    (steps : Steps R (n + 1) i j) : Steps R n i j := by
  induction n generalizing i with
  | zero =>
    obtain ⟨k, first, rfl⟩ := steps
    have forward := h i k first
    change i = k
    omega
  | succ n ih =>
    obtain ⟨k, first, rest⟩ := steps
    have forward := h i k first
    by_cases stays : i = k
    · rw [stays]
      exact rest
    · exact ⟨k, first, ih (by omega) rest⟩

theorem Forward.lengthen (h : Forward size R) {n i j : Nat} (many : size - i < n)
    (steps : Steps R n i j) : Steps R (n + 1) i j := by
  induction n generalizing i with
  | zero => omega
  | succ n ih =>
    obtain ⟨k, first, rest⟩ := steps
    have forward := h i k first
    by_cases stays : i = k
    · rw [← stays] at first rest
      exact ⟨i, first, i, first, rest⟩
    · exact ⟨k, first, ih (by omega) rest⟩

/-- All numbers of steps beyond the number of places lead to the same places. -/
theorem Forward.steps_min (h : Forward size R) (n i j : Nat) :
    Steps R (Nat.min n (size + 1)) i j ↔ Steps R n i j := by
  have beyond (extra : Nat) : Steps R (size + 1 + extra) i j ↔ Steps R (size + 1) i j := by
    induction extra with
    | zero => exact Iff.rfl
    | succ extra ih =>
      have many : size - i < size + 1 + extra := by omega
      rw [← ih]
      constructor
      · intro steps
        exact h.shorten (Nat.le_of_lt many) steps
      · intro steps
        exact h.lengthen many steps
  by_cases few : n ≤ size + 1
  · have same : Nat.min n (size + 1) = n := Nat.min_eq_left few
    rw [same]
  · have same : Nat.min n (size + 1) = size + 1 := Nat.min_eq_right (by omega)
    have sum : n = size + 1 + (n - (size + 1)) := by omega
    rw [same, sum]
    exact (beyond _).symm

theorem Forward.steps_within (h : Forward size R) {n i j : Nat} (steps : Steps R n i j) :
    ∃ k, k ≤ n ∧ k ≤ size + 1 ∧ Steps R k i j := by
  refine ⟨Nat.min n (size + 1), Nat.min_le_left _ _, Nat.min_le_right _ _, ?_⟩
  exact (h.steps_min n i j).2 steps

end Steps

theorem mem_merge {i : Nat} (a b : Places) : i ∈ merge a b ↔ i ∈ a ∨ i ∈ b := by
  induction a, b using merge.induct with
  | case1 b => simp [merge]
  | case2 a nonempty => cases a <;> simp [merge]
  | case3 j a k b less ih =>
    simp only [merge, if_pos less, ih, List.mem_cons, or_assoc]
  | case4 j a k b notLess less ih =>
    rw [merge, if_neg notLess, if_pos less, List.mem_cons, ih, List.mem_cons, List.mem_cons,
      or_left_comm]
  | case5 j a k b notLess notGreater ih =>
    have same : j = k := by omega
    rw [merge, if_neg notLess, if_neg notGreater, List.mem_cons, ih, List.mem_cons, List.mem_cons,
      same]
    constructor
    · rintro (h | h | h)
      · exact .inl (.inl h)
      · exact .inl (.inr h)
      · exact .inr (.inr h)
    · rintro ((h | h) | (h | h))
      · exact .inl h
      · exact .inr (.inl h)
      · exact .inl h
      · exact .inr (.inr h)

section Sets
variable {step : Places → Places} {R : Nat → Nat → Prop}
  (hstep : ∀ places j, j ∈ step places ↔ ∃ i ∈ places, R i j)
include hstep

theorem mem_iterate (n : Nat) (places : Places) (j : Nat) :
    j ∈ iterate step n places ↔ ∃ i ∈ places, Steps R n i j := by
  induction n generalizing places with
  | zero => simp [iterate, Steps]
  | succ n ih =>
    -- Whether the loop goes on or not, its result is what `n` steps lead to from `step places`.
    have rest : j ∈ iterate step n (step places) ↔ ∃ i ∈ places, Steps R (n + 1) i j := by
      rw [ih]
      constructor
      · rintro ⟨k, hk, steps⟩
        obtain ⟨i, hi, first⟩ := (hstep _ _).1 hk
        exact ⟨i, hi, k, first, steps⟩
      · rintro ⟨i, hi, k, first, steps⟩
        exact ⟨k, (hstep _ _).2 ⟨i, hi, first⟩, steps⟩
    rw [← rest, iterate]
    split
    · rename_i still
      have stays (m : Nat) : iterate step m places = places := by
        cases m with
        | zero => rfl
        | succ m => rw [iterate, if_pos still]
      rw [still, stays]
    · exact Iff.rfl

theorem mem_reach (n : Nat) (places : Places) (j : Nat) :
    j ∈ reach step n places ↔ ∃ k, k ≤ n ∧ ∃ i ∈ places, Steps R k i j := by
  induction n generalizing places with
  | zero =>
    constructor
    · intro h
      exact ⟨0, Nat.le_refl 0, j, h, rfl⟩
    · rintro ⟨k, none, i, hi, steps⟩
      obtain rfl : k = 0 := by omega
      obtain rfl : i = j := steps
      exact hi
  | succ n ih =>
    have rest : j ∈ reach step n (merge places (step places)) ↔
        ∃ k, k ≤ n + 1 ∧ ∃ i ∈ places, Steps R k i j := by
      rw [ih]
      constructor
      · rintro ⟨k, few, i, hi, steps⟩
        rcases (mem_merge _ _).1 hi with hi | hi
        · exact ⟨k, by omega, i, hi, steps⟩
        · obtain ⟨i', hi', first⟩ := (hstep _ _).1 hi
          exact ⟨k + 1, by omega, i', hi', i, first, steps⟩
      · rintro ⟨k, few, i, hi, steps⟩
        cases k with
        | zero => exact ⟨0, by omega, i, (mem_merge _ _).2 (.inl hi), steps⟩
        | succ k =>
          obtain ⟨i', first, steps⟩ := steps
          exact ⟨k, by omega, i', (mem_merge _ _).2 (.inr ((hstep _ _).2 ⟨i, hi, first⟩)), steps⟩
    rw [← rest, reach]
    split
    · rename_i still
      have stays (m : Nat) : reach step m places = places := by
        cases m with
        | zero => rfl
        | succ m => rw [reach, if_pos still]
      rw [still, stays]
    · exact Iff.rfl

end Sets

mutual

theorem spans_forward (text : Array Char) : ∀ r : Regex, Forward text.size (Spans text r)
  | one accepts => by
    intro i j h
    rw [Spans] at h
    have inside : i < text.size := by
      by_cases inside : i < text.size
      · exact inside
      · rw [Array.getElem?_eq_none (by omega)] at h
        exact absurd h.1 Bool.false_ne_true
    omega
  | place holds => by
    intro i j h
    rw [Spans] at h
    omega
  | sequence parts => by
    rw [Spans]
    exact spansAll_forward text parts
  | choice branches => by
    rw [Spans]
    exact spansAny_forward text branches
  | repetition body min max => by
    intro i j h
    rw [Spans] at h
    obtain ⟨more, -, steps⟩ := h
    exact (spans_forward text body).steps (min + more) i j steps

theorem spansAll_forward (text : Array Char) :
    ∀ parts : List Regex, Forward text.size (SpansAll text parts)
  | [] => by
    intro i j h
    rw [SpansAll] at h
    omega
  | r :: rest => by
    intro i j h
    rw [SpansAll] at h
    obtain ⟨k, first, others⟩ := h
    have left := spans_forward text r i k first
    have right := spansAll_forward text rest k j others
    omega

theorem spansAny_forward (text : Array Char) :
    ∀ branches : List Regex, Forward text.size (SpansAny text branches)
  | [] => by
    intro i j h
    rw [SpansAny] at h
    exact h.elim
  | r :: rest => by
    intro i j h
    rw [SpansAny] at h
    rcases h with h | h
    · exact spans_forward text r i j h
    · exact spansAny_forward text rest i j h

end

mutual

theorem mem_ends (text : Array Char) : ∀ (r : Regex) (places : Places) (j : Nat),
    j ∈ ends text r places ↔ ∃ i ∈ places, Spans text r i j
  | one accepts, places, j => by
    rw [ends, Spans, List.mem_map]
    constructor
    · rintro ⟨i, hi, rfl⟩
      obtain ⟨hi, accepted⟩ := List.mem_filter.1 hi
      exact ⟨i, hi, accepted, rfl⟩
    · rintro ⟨i, hi, accepted, rfl⟩
      exact ⟨i, List.mem_filter.2 ⟨hi, accepted⟩, rfl⟩
  | place holds, places, j => by
    rw [ends, Spans, List.mem_filter]
    constructor
    · rintro ⟨hj, held⟩
      exact ⟨j, hj, held, rfl⟩
    · rintro ⟨i, hi, held, rfl⟩
      exact ⟨hi, held⟩
  | sequence parts, places, j => by
    rw [ends, Spans]
    exact mem_endsOfAll text parts places j
  | choice branches, places, j => by
    rw [ends, Spans]
    exact mem_endsOfAny text branches places j
  | repetition body min max, places, j => by
    have forward := spans_forward text body
    have step := fun places j => mem_ends text body places j
    rw [ends, Spans]
    dsimp only
    rw [mem_reach step]
    constructor
    · rintro ⟨k, few, i', hi', further⟩
      obtain ⟨i, hi, least⟩ := (mem_iterate step _ _ _).1 hi'
      have least := (forward.steps_min min i i').1 least
      refine ⟨i, hi, k, ?_, steps_add.2 ⟨i', least, further⟩⟩
      rintro m rfl
      exact Nat.le_trans few (Nat.min_le_left _ _)
    · rintro ⟨i, hi, more, few, steps⟩
      obtain ⟨i', least, further⟩ := steps_add.1 steps
      obtain ⟨k, less, within, further⟩ := forward.steps_within further
      refine ⟨k, ?_, i', (mem_iterate step _ _ _).2 ⟨i, hi, ?_⟩, further⟩
      · cases max with
        | none => exact within
        | some m => exact Nat.le_min.2 ⟨Nat.le_trans less (few m rfl), within⟩
      · exact (forward.steps_min min i i').2 least

theorem mem_endsOfAll (text : Array Char) : ∀ (parts : List Regex) (places : Places) (j : Nat),
    j ∈ endsOfAll text parts places ↔ ∃ i ∈ places, SpansAll text parts i j
  | [], places, j => by simp [endsOfAll, SpansAll]
  | r :: rest, places, j => by
    rw [endsOfAll, SpansAll, mem_endsOfAll text rest]
    constructor
    · rintro ⟨k, hk, others⟩
      obtain ⟨i, hi, first⟩ := (mem_ends text r places k).1 hk
      exact ⟨i, hi, k, first, others⟩
    · rintro ⟨i, hi, k, first, others⟩
      exact ⟨k, (mem_ends text r places k).2 ⟨i, hi, first⟩, others⟩

theorem mem_endsOfAny (text : Array Char) : ∀ (branches : List Regex) (places : Places) (j : Nat),
    j ∈ endsOfAny text branches places ↔ ∃ i ∈ places, SpansAny text branches i j
  | [], places, j => by simp [endsOfAny, SpansAny]
  | r :: rest, places, j => by
    rw [endsOfAny, SpansAny, mem_merge, mem_ends text r, mem_endsOfAny text rest]
    constructor
    · rintro (⟨i, hi, h⟩ | ⟨i, hi, h⟩)
      · exact ⟨i, hi, .inl h⟩
      · exact ⟨i, hi, .inr h⟩
    · rintro ⟨i, hi, h | h⟩
      · exact .inl ⟨i, hi, h⟩
      · exact .inr ⟨i, hi, h⟩

end

theorem isMatch_iff (r : Regex) (text : String) : r.isMatch text = true ↔
    ∃ i j, i ≤ text.toList.length ∧ r.Spans text.toList.toArray i j := by
  rw [isMatch, Bool.not_eq_true', List.isEmpty_eq_false_iff_exists_mem]
  constructor
  · rintro ⟨j, hj⟩
    obtain ⟨i, hi, spans⟩ := (mem_ends _ _ _ _).1 hj
    have inside := List.mem_range.1 hi
    rw [List.size_toArray] at inside
    exact ⟨i, j, by omega, spans⟩
  · rintro ⟨i, j, inside, spans⟩
    refine ⟨j, (mem_ends _ _ _ _).2 ⟨i, List.mem_range.2 ?_, spans⟩⟩
    rw [List.size_toArray]
    omega

/-- Between conditions that hold only at the two ends of a text, an expression has to match all of
it. -/
theorem isMatch_between {start stop : Option Char → Option Char → Bool}
    (hstart : ∀ b c, start b c = true ↔ b = none) (hstop : ∀ b c, stop b c = true ↔ c = none)
    (r : Regex) (text : String) :
    (sequence [place start, r, place stop]).isMatch text = true ↔ r.MatchesWhole text := by
  have size : text.toList.toArray.size = text.toList.length := List.size_toArray
  rw [isMatch_iff, MatchesWhole]
  constructor
  · rintro ⟨i, j, inside, spans⟩
    simp only [Spans, SpansAll, hstart, hstop] at spans
    obtain ⟨k, ⟨first, hk⟩, l, spans, l', ⟨last, hl⟩, hj⟩ := spans
    have begins : i = 0 := by
      cases i with
      | zero => rfl
      | succ i =>
        have outside : text.toList.toArray.size ≤ i := Array.getElem?_eq_none_iff.1 first
        omega
    have outside : text.toList.toArray.size ≤ l := Array.getElem?_eq_none_iff.1 last
    have forward := spans_forward text.toList.toArray r k l spans
    have ended : l = text.toList.length := by omega
    rw [hk, begins, ended] at spans
    exact spans
  · intro spans
    refine ⟨0, text.toList.length, Nat.zero_le _, ?_⟩
    simp only [Spans, SpansAll, hstart, hstop]
    have last : text.toList.toArray[text.toList.length]? = none :=
      Array.getElem?_eq_none_iff.2 (by omega)
    exact ⟨0, ⟨rfl, rfl⟩, _, spans, _, ⟨last, rfl⟩, rfl⟩

end SearchQuery.Regex
