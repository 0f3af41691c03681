import SearchQuery.Proofs.Outcome
import SearchQuery.Query.Validation

/-!
# Ends of ranges

A range passes its check if one of its ends is set and two are in order.  The ends of a date range
are texts, of which an empty one counts as none; it is their instants that have to be in order.
-/

set_option autoImplicit false
namespace SearchQuery

theorem dateEnd_of_ne {date : String} (some : date ≠ "") : dateEnd (.some date) = .some date := by
  simp [dateEnd, some]

theorem dateOf_eq_error {layouts : Option (List String)} {text : String} {v : Violation}
    (h : dateOf layouts text = .error v) : ∃ fault, v = .date text fault := by
  unfold dateOf at h
  split at h
  · split at h
    · cases h
    · cases h
      exact ⟨_, rfl⟩
  · split at h
    · cases h
    · cases h
      exact ⟨_, rfl⟩

/-- The instant of an end of a date range: none for a missing or an empty text. -/
inductive ReadsEnd (layouts : Option (List String)) :
    Option String → Option Calendar.Instant → Prop
  | absent : ReadsEnd layouts none none
  | empty : ReadsEnd layouts (some "") none
  | text {date : String} {i : Calendar.Instant} (some : date ≠ "")
    (read : dateOf layouts date = .ok i) : ReadsEnd layouts (.some date) (.some i)

theorem dateEndOf_eq_ok {layouts : Option (List String)} {text : Option String}
    {i : Option Calendar.Instant} : dateEndOf layouts text = .ok i ↔ ReadsEnd layouts text i := by
  constructor
  · intro h
    cases text with
    | none =>
      cases h
      exact .absent
    | some date =>
      by_cases empty : date = ""
      · subst empty
        cases h
        exact .empty
      · rw [dateEndOf, dateEnd_of_ne empty] at h
        obtain ⟨x, read, rfl⟩ := map_eq_ok.1 h
        exact .text empty read
  · intro h
    cases h with
    | absent | empty => rfl
    | text some read =>
      rw [dateEndOf, dateEnd_of_ne some]
      exact map_eq_ok.2 ⟨_, read, rfl⟩

theorem ReadsEnd.isSome {layouts : Option (List String)} {text : Option String}
    {i : Option Calendar.Instant} (h : ReadsEnd layouts text i) :
    (dateEnd text).isSome = i.isSome := by
  cases h with
  | absent | empty => rfl
  | text some => rw [dateEnd_of_ne some]; rfl

namespace Bounds

theorem check_eq_ok {α : Type} {kind : Kind} {above : α → α → Bool} {text : α → String}
    {b : Bounds α} : b.check kind above text = .ok () ↔
      (b.min ≠ none ∨ b.max ≠ none) ∧ ∀ min ∈ b.min, ∀ max ∈ b.max, above min max = false := by
  unfold check
  cases b.min with
  | none => cases b.max <;> simp
  | some min =>
    cases b.max with
    | none => simp
    | some max => cases inverted : above min max <;> simp [inverted]

theorem check_instants {dates : Bounds Calendar.Instant} :
    dates.check .dateRange (fun s t => !decide (s ≤ t)) Calendar.Instant.text = .ok () ↔
      (dates.min ≠ none ∨ dates.max ≠ none) ∧
      ∀ start ∈ dates.min, ∀ stop ∈ dates.max, start ≤ stop := by
  simp [check_eq_ok]

theorem dates_eq_ok {layouts : Option (List String)} {b : Bounds String}
    {dates : Bounds Calendar.Instant} : b.dates layouts = .ok dates ↔
      ReadsEnd layouts b.min dates.min ∧ ReadsEnd layouts b.max dates.max ∧
      ((dates.min ≠ none ∨ dates.max ≠ none) ∧
        ∀ start ∈ dates.min, ∀ stop ∈ dates.max, start ≤ stop) ∧
      b.inclusiveMin = dates.inclusiveMin ∧ b.inclusiveMax = dates.inclusiveMax := by
  unfold Bounds.dates
  constructor
  · intro h
    dsimp only at h
    split at h
    · cases h
    obtain ⟨start, first, h⟩ := bind_eq_ok.1 h
    obtain ⟨stop, second, h⟩ := bind_eq_ok.1 h
    obtain ⟨_, checked, h⟩ := bind_eq_ok.1 h
    cases h
    exact ⟨dateEndOf_eq_ok.1 first, dateEndOf_eq_ok.1 second, check_instants.1 checked, rfl, rfl⟩
  · rintro ⟨first, second, proper, first', second'⟩
    have dated : b.hasDate = true := by
      rw [hasDate, first.isSome, second.isSome, Bool.or_eq_true]
      exact proper.1.imp Option.isSome_iff_ne_none.2 Option.isSome_iff_ne_none.2
    rw [dated, first', second']
    exact bind_eq_ok.2 ⟨_, dateEndOf_eq_ok.2 first, bind_eq_ok.2 ⟨_, dateEndOf_eq_ok.2 second,
      bind_eq_ok.2 ⟨(), check_instants.2 proper, rfl⟩⟩⟩

theorem dates_halfRange (layouts : Option (List String)) (lower inclusive : Bool) {date : String}
    (some : date ≠ "") : (Grammar.halfRange lower inclusive date).dates layouts =
      (dateOf layouts date).map (Grammar.halfRange lower inclusive) := by
  cases lower with
  | true | false =>
    simp only [Grammar.halfRange, Bool.false_eq_true, if_true, if_false, dates, hasDate, dateEndOf,
      dateEnd_of_ne some]
    cases dateOf layouts date <;> rfl

end Bounds

end SearchQuery
