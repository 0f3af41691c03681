import SearchQuery.Proofs.Plan.TermLists
import SearchQuery.Proofs.Plan.Values
import SearchQuery.Proofs.Query.Ranges
import SearchQuery.Proofs.Text.Edits

/-!
# Terms that a plan selects

Criteria that ask for terms of the dictionary select them in its order.  Two ranges of terms that
meet select what their union selects, term for term (`Query.termRange_tiles`), and a fuzzy query
selects no less when it allows more edits or a shorter common start (`Query.fuzzy_loosened`).
-/

set_option autoImplicit false
namespace SearchQuery

def Plan.selected (field : String) : Plan → Option (List String)
  | .leaf (.term f word) _ _ => if f = field then some [word] else none
  | .leaf (.anyTerm f words) _ _ => if f = field then some words else none
  | .leaf .nothing _ _ => some []
  | _ => none

theorem Plan.selected_anyTerm (field : String) (words : List String) (boost : Option Float)
    (options : Options) : (Plan.anyTerm field words boost options).selected field = some words := by
  unfold Plan.anyTerm
  split
  · rename_i empty
    rw [List.isEmpty_iff.1 empty]
    rfl
  · exact if_pos rfl

/-- The plan of the criterion for a field selects these terms of it, whatever its boost. -/
def Criterion.Selects (t : Target) (field : String) (c : Criterion) (words : List String) : Prop :=
  ∀ boost, ∃ p, (Query.onField c field boost).compile {} t = .ok p ∧
    p.selected (t.resolve field) = some words

theorem Criterion.selects_of_lower {t : Target} {field : String} {c : Criterion}
    {words : List String} (h : ∀ boost, ∃ p, c.lower t (t.resolve field) boost = .ok p ∧
      p.selected (t.resolve field) = some words) : c.Selects t field words := by
  intro boost
  rw [Query.compile_onField rfl]
  exact h boost

theorem Criterion.Selects.unique {t : Target} {field : String} {c : Criterion}
    {words words' : List String} (h : c.Selects t field words) (h' : c.Selects t field words') :
    words = words' := by
  obtain ⟨p, compiled, selected⟩ := h none
  obtain ⟨p', compiled', selected'⟩ := h' none
  rw [compiled] at compiled'
  cases compiled'
  exact Option.some.inj (selected.symm.trans selected')

namespace Bounds

theorem containsTerm_iff {b : Bounds String} {term : String} : b.containsTerm term = true ↔
    (∀ min ∈ b.min, min < term ∨ b.includesMin = true ∧ term = min) ∧
    ∀ max ∈ b.max, term < max ∨ b.includesMax = true ∧ term = max := by
  unfold containsTerm
  rw [Bool.and_eq_true]
  refine and_congr ?_ ?_
  · cases b.min with
    | none => simp
    | some min =>
      have reaches : min ≤ term ↔ min < term ∨ term = min :=
        Std.le_iff_lt_or_eq.trans (or_congr_right eq_comm)
      cases b.includesMin <;> simp [reaches]
  · cases b.max with
    | none => simp
    | some max => cases b.includesMax <;> simp [Std.le_iff_lt_or_eq]

/-- The range from the lower end of one range to the upper end of another. -/
def join {α : Type} (lower upper : Bounds α) : Bounds α :=
  ⟨lower.min, upper.max, lower.inclusiveMin, upper.inclusiveMax⟩

/-- One range ends at a term within their union where the other begins, and one of the two has
it. -/
structure Meet (lower upper : Bounds String) (m : String) : Prop where
  ends : lower.max = some m
  begins : upper.min = some m
  above : ∀ min ∈ lower.min, min < m
  below : ∀ max ∈ upper.max, m < max
  once : lower.includesMax ≠ upper.includesMin

namespace Meet
variable {lower upper : Bounds String} {m term : String}

theorem lower_iff (h : lower.Meet upper m) : lower.containsTerm term = true ↔
    (∀ min ∈ lower.min, min < term ∨ lower.includesMin = true ∧ term = min) ∧
      (term < m ∨ lower.includesMax = true ∧ term = m) := by
  simp [containsTerm_iff, h.ends]

theorem upper_iff (h : lower.Meet upper m) : upper.containsTerm term = true ↔
    (m < term ∨ upper.includesMin = true ∧ term = m) ∧
      ∀ max ∈ upper.max, term < max ∨ upper.includesMax = true ∧ term = max := by
  simp [containsTerm_iff, h.begins]

theorem checked_lower (h : lower.Meet upper m) : lower.checkTerms = .ok () := by
  refine check_eq_ok.2 ⟨.inr (by simp [h.ends]), ?_⟩
  intro min hmin max hmax
  rw [h.ends] at hmax
  cases hmax
  exact decide_eq_false (String.lt_asymm (h.above min hmin))

theorem checked_upper (h : lower.Meet upper m) : upper.checkTerms = .ok () := by
  refine check_eq_ok.2 ⟨.inl (by simp [h.begins]), ?_⟩
  intro min hmin max hmax
  rw [h.begins] at hmin
  cases hmin
  exact decide_eq_false (String.lt_asymm (h.below max hmax))

theorem checked_join (h : lower.Meet upper m) (bounded : lower.min ≠ none ∨ upper.max ≠ none) :
    (lower.join upper).checkTerms = .ok () := by
  refine check_eq_ok.2 ⟨bounded, ?_⟩
  intro min hmin max hmax
  exact decide_eq_false (String.lt_asymm (String.lt_trans (h.above min hmin) (h.below max hmax)))

theorem lt_of_contains (h : lower.Meet upper m) {s t : String}
    (first : lower.containsTerm s = true) (second : upper.containsTerm t = true) : s < t := by
  rcases (h.lower_iff.1 first).2 with before | ⟨included, rfl⟩
  · rcases (h.upper_iff.1 second).1 with after | ⟨-, rfl⟩
    · exact String.lt_trans before after
    · exact before
  · rcases (h.upper_iff.1 second).1 with after | ⟨included', rfl⟩
    · exact after
    · exact absurd (included.trans included'.symm) h.once

theorem contains_join (h : lower.Meet upper m) (term : String) :
    (lower.join upper).containsTerm term =
      (lower.containsTerm term || upper.containsTerm term) := by
  rw [Bool.eq_iff_iff, Bool.or_eq_true, h.lower_iff, h.upper_iff, containsTerm_iff]
  constructor
  · rintro ⟨above, below⟩
    by_cases before : term < m
    · exact .inl ⟨above, .inl before⟩
    by_cases same : term = m
    · cases included : lower.includesMax with
      | true => exact .inl ⟨above, .inr ⟨rfl, same⟩⟩
      | false =>
        have included' : upper.includesMin = true := by simpa [included] using h.once
        exact .inr ⟨.inr ⟨included', same⟩, below⟩
    · exact .inr ⟨.inl (Std.lt_of_le_of_ne (String.not_lt.1 before) (Ne.symm same)), below⟩
  · rintro (⟨above, before⟩ | ⟨after, below⟩)
    · refine ⟨above, fun max hmax => .inl ?_⟩
      rcases before with before | ⟨-, rfl⟩
      · exact String.lt_trans before (h.below max hmax)
      · exact h.below max hmax
    · refine ⟨fun min hmin => .inl ?_, below⟩
      rcases after with after | ⟨-, rfl⟩
      · exact String.lt_trans (h.above min hmin) after
      · exact h.above min hmin

end Meet

end Bounds

theorem filter_or_of_lt {words : List String} (ascending : words.Pairwise (· < ·))
    {first second : String → Bool}
    (apart : ∀ s t, first s = true → second t = true → s < t) :
    words.filter (fun s => first s || second s) = words.filter first ++ words.filter second := by
  induction words with
  | nil => rfl
  | cons word rest ih =>
    obtain ⟨above, ascending⟩ := List.pairwise_cons.1 ascending
    cases early : first word with
    | true =>
      have once : second word = false := by
        rw [← Bool.not_eq_true]
        exact fun late => String.lt_irrefl word (apart word word early late)
      simp [early, once, ih ascending]
    | false =>
      cases late : second word with
      | false => simp [early, late, ih ascending]
      | true =>
        have none : rest.filter first = [] := by
          refine List.filter_eq_nil_iff.2 fun s mem early' => ?_
          exact String.lt_asymm (apart s word early' late) (above s mem)
        have tail := ih ascending
        rw [none, List.nil_append] at tail
        simp [early, late, none, tail]

theorem Criterion.termRange_selects {t : Target} {b : Bounds String}
    (checked : b.checkTerms = .ok ()) (field : String) :
    (Criterion.termRange b).Selects t field
      ((t.terms (t.resolve field)).filter b.containsTerm) := by
  refine selects_of_lower fun boost => ⟨_, ?_, Plan.selected_anyTerm _ _ boost t.options⟩
  have passed : valid (Criterion.termRange b).check = .ok () := valid_eq_ok.2 checked
  rw [lower, passed]
  rfl

namespace Query

/-- Two ranges of terms that meet select the terms of their union in turn.  A union without ends is
refused; its terms would be all terms of the field. -/
theorem termRange_tiles (index : Index) (mapping : Mapping) (options : Options) (field : String)
    {lower upper : Bounds String} {m : String} (meet : lower.Meet upper m) :
    let t : Target := ⟨index.terms, mapping, options⟩
    ∃ before after, (Criterion.termRange lower).Selects t field before ∧
      (Criterion.termRange upper).Selects t field after ∧
      (lower.min ≠ none ∨ upper.max ≠ none →
        (Criterion.termRange (lower.join upper)).Selects t field (before ++ after)) ∧
      (lower.min = none → upper.max = none →
        before ++ after = index.terms (t.resolve field) ∧
        ∀ boost, (Query.onField (.termRange (lower.join upper)) field boost).compile {} t =
          .error (.invalid (.missingBounds .termRange))) := by
  intro t
  have union : (index.terms (t.resolve field)).filter (lower.join upper).containsTerm =
      (index.terms (t.resolve field)).filter lower.containsTerm ++
        (index.terms (t.resolve field)).filter upper.containsTerm := by
    rw [funext meet.contains_join]
    exact filter_or_of_lt (index.terms_ascending _) fun _ _ => meet.lt_of_contains
  refine ⟨_, _, Criterion.termRange_selects meet.checked_lower field,
    Criterion.termRange_selects meet.checked_upper field, ?_, ?_⟩
  · intro bounded
    have selects := Criterion.termRange_selects (t := t) (meet.checked_join bounded) field
    rw [union] at selects
    exact selects
  · intro low high
    refine ⟨?_, fun boost => ?_⟩
    · rw [← union, List.filter_eq_self]
      intro term _
      simp [Bounds.containsTerm_iff, Bounds.join, low, high]
    · have missing : (lower.join upper).checkTerms = .error (.missingBounds .termRange) := by
        rw [Bounds.checkTerms, Bounds.join, low, high]
        rfl
      have refused : valid (Criterion.termRange (lower.join upper)).check =
          .error (.invalid (.missingBounds .termRange)) := by
        rw [Criterion.check, missing]
        rfl
      rw [compile_onField rfl, Criterion.lower, refused]
      rfl

/-- The dog belongs to the first of two ranges, whose union has both of its ends. -/
theorem termRange_tiles_animals :
    let index := Index.empty.addTerms "animal" ["eel", "cat", "dog", "ant"]
    let t : Target := ⟨index.terms, Schema.initial.mapping, {}⟩
    let lower : Bounds String := ⟨some "b", some "dog", none, some true⟩
    let upper : Bounds String := ⟨some "dog", some "f", some false, none⟩
    lower.Meet upper "dog" ∧ (Criterion.termRange lower).Selects t "animal" ["cat", "dog"] ∧
      (Criterion.termRange upper).Selects t "animal" ["eel"] ∧
      (Criterion.termRange (lower.join upper)).Selects t "animal"
        (["cat", "dog"] ++ ["eel"]) := by
  intro index t lower upper
  have meet : lower.Meet upper "dog" :=
    ⟨rfl, rfl, by rintro _ ⟨⟩; decide, by rintro _ ⟨⟩; decide, by decide⟩
  have first : (Criterion.termRange lower).Selects t "animal" ["cat", "dog"] :=
    fun boost => ⟨.ofCondition (.anyTerm "animal" ["cat", "dog"]) boost {},
      by with_unfolding_all rfl, rfl⟩
  have second : (Criterion.termRange upper).Selects t "animal" ["eel"] :=
    fun boost => ⟨.ofCondition (.anyTerm "animal" ["eel"]) boost {},
      by with_unfolding_all rfl, rfl⟩
  obtain ⟨before, after, first', second', union, -⟩ :=
    termRange_tiles index Schema.initial.mapping {} "animal" meet
  rw [first'.unique first, second'.unique second] at union
  exact ⟨meet, first, second, union (.inl (Option.some_ne_none _))⟩

/-- Two ranges that meet select a term each, but the range of all terms is refused. -/
theorem termRange_unbounded :
    let index := Index.empty.addTerms "animal" ["ant", "zebra"]
    let t : Target := ⟨index.terms, Schema.initial.mapping, {}⟩
    let lower : Bounds String := ⟨none, some "m", none, none⟩
    let upper : Bounds String := ⟨some "m", none, none, none⟩
    lower.Meet upper "m" ∧ (Criterion.termRange lower).Selects t "animal" ["ant"] ∧
      (Criterion.termRange upper).Selects t "animal" ["zebra"] ∧
      ¬ ∃ words, (Criterion.termRange (lower.join upper)).Selects t "animal" words := by
  intro index t lower upper
  refine ⟨⟨rfl, rfl, by rintro _ ⟨⟩, by rintro _ ⟨⟩, by decide⟩,
    fun boost => ⟨.ofCondition (.anyTerm "animal" ["ant"]) boost {}, by with_unfolding_all rfl,
      rfl⟩,
    fun boost => ⟨.ofCondition (.anyTerm "animal" ["zebra"]) boost {}, by with_unfolding_all rfl,
      rfl⟩, ?_⟩
  rintro ⟨words, selects⟩
  obtain ⟨p, compiled, -⟩ := selects none
  have refused : (Query.onField (.termRange (lower.join upper)) "animal" none).compile {} t =
      .error (.invalid (.missingBounds .termRange)) := rfl
  rw [refused] at compiled
  cases compiled

end Query

/-- A term within some edits of a word that begins with the first characters of the word. -/
structure IsNear (word : String) (edits shared : Nat) (term : String) : Prop where
  start : word.toList.take shared <+: term.toList
  edited : ∃ n ≤ edits, Edits n word.toList term.toList

theorem IsNear.loosen {word term : String} {edits edits' shared shared' : Nat}
    (h : IsNear word edits shared term) (more : edits ≤ edits') (shorter : shared' ≤ shared) :
    IsNear word edits' shared' term := by
  obtain ⟨n, few, edited⟩ := h.edited
  exact ⟨(List.take_prefix_take_left shorter).trans h.start, n, few.trans more, edited⟩

theorem isNear_self (word : String) (edits shared : Nat) : IsNear word edits shared word :=
  ⟨List.take_prefix _ _, 0, Nat.zero_le _, .refl _⟩

theorem isNear_zero_iff {word term : String} {shared : Nat} :
    IsNear word 0 shared term ↔ term = word := by
  constructor
  · rintro ⟨-, n, none, edited⟩
    rw [Nat.le_zero.1 none] at edited
    exact String.ext edited.eq_of_zero.symm
  · rintro rfl
    exact isNear_self term 0 shared

theorem similarTerms_near {t : Target} {field word term : String} {edits shared : Nat} :
    term ∈ t.similarTerms field word edits shared ↔
      term ∈ t.terms field ∧ IsNear word edits shared term := by
  rw [Target.similarTerms, List.mem_filter, Bool.and_eq_true, decide_eq_true_iff,
    editDistance_le_iff, Target.sharesPrefix, List.isPrefixOf_iff_prefix]
  exact and_congr_right fun _ => ⟨fun h => ⟨h.1, h.2⟩, fun h => ⟨h.start, h.edited⟩⟩

/-- Whether a fuzzy criterion asks for its word alone or searches the dictionary, it selects the
terms of the dictionary that are near to the word. -/
theorem Criterion.fuzzy_selects (t : Target) (field word : String) (shared : Option UInt32)
    {edits : Int64} (least : 0 ≤ edits) (most : edits ≤ 2) :
    ∃ words, (Criterion.fuzzy word shared (some (.edits edits))).Selects t field words ∧
      ∀ term ∈ t.terms (t.resolve field),
        term ∈ words ↔ IsNear word edits.toInt.toNat (shared.getD 0).toNat term := by
  have passed : valid (Criterion.fuzzy word shared (some (.edits edits))).check = .ok () := by
    have proper : (Fuzziness.edits edits).isValid = true := by
      have least' : 0 ≤ edits.toInt := Int64.le_iff_toInt_le.1 least
      have most' : edits.toInt ≤ 2 := Int64.le_iff_toInt_le.1 most
      simp [Fuzziness.isValid, Fuzziness.maxEdits, least', most']
    rw [valid_eq_ok, check, fuzzinessOfTerm, Option.getD_some, Fuzziness.check, proper]
    rfl
  by_cases none : edits.toInt.toNat = 0
  · refine ⟨[word], selects_of_lower fun boost => ⟨.ofCondition (.term _ word) boost t.options, ?_,
      if_pos rfl⟩, fun term _ => ?_⟩
    · rw [lower, passed]
      exact if_pos none
    · rw [none, isNear_zero_iff, List.mem_singleton]
  · refine ⟨t.similarTerms (t.resolve field) word edits.toInt.toNat (shared.getD 0).toNat,
      selects_of_lower fun boost => ⟨_, ?_, Plan.selected_anyTerm _ _ boost t.options⟩,
      fun term mem => ?_⟩
    · rw [lower, passed]
      exact if_neg none
    · rw [similarTerms_near, and_iff_right mem]

namespace Query

/-- A fuzzy query that allows more edits, or shares fewer characters at the start, selects no fewer
terms of the dictionary; the word itself is selected if it is one of them. -/
theorem fuzzy_loosened (index : Index) (mapping : Mapping) (options : Options)
    (field word : String) {edits edits' : Int64} {shared shared' : Option UInt32}
    (least : 0 ≤ edits) (more : edits ≤ edits') (most : edits' ≤ 2)
    (shorter : shared'.getD 0 ≤ shared.getD 0) :
    let t : Target := ⟨index.terms, mapping, options⟩
    ∃ strict loose,
      (Criterion.fuzzy word shared (some (.edits edits))).Selects t field strict ∧
      (Criterion.fuzzy word shared' (some (.edits edits'))).Selects t field loose ∧
      (∀ term ∈ index.terms (t.resolve field), term ∈ strict → term ∈ loose) ∧
      (word ∈ index.terms (t.resolve field) → word ∈ strict ∧ word ∈ loose) := by
  intro t
  have more' : edits.toInt ≤ edits'.toInt := Int64.le_iff_toInt_le.1 more
  have shorter' : (shared'.getD 0).toNat ≤ (shared.getD 0).toNat :=
    UInt32.le_iff_toNat_le.1 shorter
  obtain ⟨strict, selects, near⟩ :=
    Criterion.fuzzy_selects t field word shared least (Int64.le_trans more most)
  obtain ⟨loose, selects', near'⟩ :=
    Criterion.fuzzy_selects t field word shared' (Int64.le_trans least more) most
  refine ⟨strict, loose, selects, selects', fun term mem found => ?_, fun mem => ⟨?_, ?_⟩⟩
  · exact (near' term mem).2 (((near term mem).1 found).loosen (Int.toNat_le_toNat more') shorter')
  · exact (near word mem).2 (isNear_self ..)
  · exact (near' word mem).2 (isNear_self ..)

/-- With no edits a word is a term, whatever start is asked for; with two it is one of a set. -/
theorem fuzzy_loosened_rust :
    let index := Index.empty.addTerms "body" ["rust", "trust", "rest", "rusted", "robust"]
    let t : Target := ⟨index.terms, Schema.initial.mapping, {}⟩
    let strict : Criterion := .fuzzy "rust" (some 9) (some (.edits 0))
    let loose : Criterion := .fuzzy "rust" (some 1) (some (.edits 2))
    strict.Selects t "body" ["rust"] ∧
      loose.Selects t "body" ["rest", "robust", "rust", "rusted"] ∧
      (∀ term ∈ index.terms "body", term ∈ ["rust"] →
        term ∈ ["rest", "robust", "rust", "rusted"]) := by
  intro index t strict loose
  have first : strict.Selects t "body" ["rust"] :=
    fun boost => ⟨.ofCondition (.term "body" "rust") boost {}, rfl, rfl⟩
  have second : loose.Selects t "body" ["rest", "robust", "rust", "rusted"] :=
    fun boost => ⟨.ofCondition (.anyTerm "body" ["rest", "robust", "rust", "rusted"]) boost {},
      by with_unfolding_all rfl, rfl⟩
  have more : (0 : Int64) ≤ 2 := by decide
  have shorter : (some (1 : UInt32)).getD 0 ≤ (some 9).getD 0 := by decide
  obtain ⟨few, many, first', second', loosened, -⟩ :=
    fuzzy_loosened index Schema.initial.mapping {} "body" "rust" (Int64.le_refl 0) more
      (Int64.le_refl 2) shorter
  rw [first'.unique first, second'.unique second] at loosened
  exact ⟨first, second, loosened⟩

end Query

end SearchQuery
