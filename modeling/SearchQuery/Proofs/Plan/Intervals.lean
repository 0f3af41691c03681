import SearchQuery.Proofs.Plan.Values
import SearchQuery.Proofs.Query.Ranges

/-!
# Ranges in plans

A range of numbers or of dates in a plan has an end, and two ends are in order.  Dates are compared
as instants: their texts may have been read after different layouts and with different offsets, and
an empty text is no end (`Query.compile_intervals`).
-/

set_option autoImplicit false
namespace SearchQuery

/-- The interval has an end, and two ends are in order. -/
structure Interval.IsProper {α : Type} (InOrder : α → α → Prop) (i : Interval α) : Prop where
  bounded : i.min ≠ none ∨ i.max ≠ none
  ordered : ∀ min ∈ i.min, ∀ max ∈ i.max, InOrder min max

namespace Bounds

theorem isProper_of_checkNumeric {b : Bounds Float} (h : b.checkNumeric = .ok ()) :
    b.interval.IsProper fun min max => ¬ max < min := by
  obtain ⟨bounded, ordered⟩ := check_eq_ok.1 h
  refine ⟨bounded, ?_⟩
  intro min first max second
  exact of_decide_eq_false (ordered min first max second)

theorem isProper_of_dates {layouts : Option (List String)} {b : Bounds String}
    {dates : Bounds Calendar.Instant} (h : b.dates layouts = .ok dates) :
    dates.interval.IsProper fun start stop => start ≤ stop := by
  obtain ⟨-, -, ⟨bounded, ordered⟩, -⟩ := dates_eq_ok.1 h
  exact ⟨bounded, ordered⟩

end Bounds

namespace Query

/-- The ends of a range of numbers are those of a range that the query asks for, and the maximum is
not below the minimum.  The ends of a range of dates are the instants of the texts of such a range,
read after the layouts of its parser, and the range starts no later than it stops. -/
theorem compile_intervals {context : Context} {t : Target} {q : Query} {p : Plan}
    (h : q.compile context t = .ok p) :
    (∀ n field i, p.HasNode n → n.condition? = some (.numericRange field i) →
      i.IsProper (fun min max => ¬ max < min) ∧
        ∃ b written boost, q.Asks (.numericRange b) written boost ∧ i.min = b.min ∧
          i.max = b.max) ∧
    ∀ n field i, p.HasNode n → n.condition? = some (.dateRange field i) →
      i.IsProper (fun start stop => start ≤ stop) ∧
        ∃ b parser written boost layouts, q.Asks (.dateRange b parser) written boost ∧
          t.layouts parser = .ok layouts ∧ ReadsEnd layouts b.min i.min ∧
          ReadsEnd layouts b.max i.max := by
  refine ⟨?_, ?_⟩
  · intro n field i node leaf
    obtain ⟨c, written, boost, asks, denotes⟩ := compile_denotes h node leaf rfl
    cases denotes with
    | @numbers b checked =>
      exact ⟨b.isProper_of_checkNumeric checked, b, written, boost, asks, rfl, rfl⟩
  · intro n field i node leaf
    obtain ⟨c, written, boost, asks, denotes⟩ := compile_denotes h node leaf rfl
    cases denotes with
    | @dates b parser layouts dates known read =>
      obtain ⟨start, stop, -⟩ := Bounds.dates_eq_ok.1 read
      exact ⟨Bounds.isProper_of_dates read, b, parser, written, boost, layouts, asks, known, start,
        stop⟩

/-- A query string asks for numbers without a maximum, and a named parser reads two dates after
different layouts: the first is two o'clock of New Year's Day three hours east, which is before the
midnight of the second. -/
theorem compile_intervals_offset :
    let layouts := ["%d.%m.%Y", "%H:%M%z %d.%m.%Y"]
    let t : Target := ⟨fun _ => [], (Schema.initial.withDateParser "day" layouts).mapping, {}⟩
    let b : Bounds String := ⟨some "02:00+0300 1.1.2024", some "1.1.2024", none, none⟩
    let q : Query := .conjunction
      [.onField (.dateRange b (some "day")) "at" none, .queryString "n:>3" none] none
    let start : Calendar.Instant := ⟨1704063600, 0⟩
    let stop : Calendar.Instant := ⟨1704067200, 0⟩
    let dates : Interval Calendar.Instant := ⟨some start, some stop, true, false⟩
    let numbers : Interval Float := ⟨some 3, none, false, false⟩
    let first : Plan := .leaf (.dateRange "at" dates) defaultBoost {}
    let second : Plan := .leaf (.numericRange "n" numbers) defaultBoost {}
    let p : Plan := .conjunction [first, .boolean none (some (.disjunction [second] 1 defaultBoost
      {})) none defaultBoost {}] defaultBoost {}
    q.compile {} t = .ok p ∧ p.HasNode first ∧ p.HasNode second ∧
      dates.IsProper (fun start stop => start ≤ stop) ∧
      numbers.IsProper fun min max => ¬ max < min := by
  intro layouts t b q start stop dates numbers first second p
  have late : dateOf (some layouts) "02:00+0300 1.1.2024" = .ok start := by
    have read : Calendar.instantInAny? layouts "02:00+0300 1.1.2024" = some start := by
      decide +kernel
    rw [dateOf, read]
  have midnight : dateOf (some layouts) "1.1.2024" = .ok stop := by
    have read : Calendar.instantInAny? layouts "1.1.2024" = some stop := by
      decide +kernel
    rw [dateOf, read]
  have read : b.dates (some layouts) = .ok ⟨some start, some stop, none, none⟩ := by
    refine Bounds.dates_eq_ok.2
      ⟨.text (by decide) late, .text (by decide) midnight, ⟨.inl (Option.some_ne_none _), ?_⟩,
        rfl, rfl⟩
    rintro _ ⟨⟩ _ ⟨⟩
    decide
  have lowered : (Criterion.dateRange b (some "day")).lower t "at" none = .ok first :=
    Criterion.Denotes.lower (.dates rfl read) rfl (.inr ⟨rfl, rfl⟩) none
  have parsed : parseQueryString "n:>3" = .ok (.boolean none (some (.disjunction
      [.onField (.numericRange ⟨some 3, none, some false, none⟩) "n" none] (some 1) none)) none
      none) := by
    with_unfolding_all rfl
  have each : lowerEach t (lowerText t) [.onField (.dateRange b (some "day")) "at" none,
      .queryString "n:>3" none] = .ok [first, .boolean none (some (.disjunction [second] 1
        defaultBoost {})) none defaultBoost {}] := by
    refine lowerEach_iff.2 (.cons (lowerTree_onField.trans lowered) (.cons ?_ .nil))
    rw [lowerTree, lowerText_of_parse parsed]
    with_unfolding_all rfl
  have compiled : q.compile {} t = .ok p :=
    compile_eq_ok.2 ⟨rfl, lowerTree_conjunction.2 (.inr ⟨List.cons_ne_nil _ _, _, each, rfl⟩)⟩
  have node : p.HasNode first := .inside List.mem_cons_self (.root first)
  have node' : p.HasNode second :=
    .inside (List.mem_cons_of_mem _ List.mem_cons_self)
      (.inside (List.mem_singleton.2 rfl) (.inside (List.mem_singleton.2 rfl) (.root second)))
  obtain ⟨ofNumbers, ofDates⟩ := compile_intervals compiled
  exact ⟨compiled, node, node', (ofDates _ _ _ node rfl).1, (ofNumbers _ _ _ node' rfl).1⟩

end Query

end SearchQuery
