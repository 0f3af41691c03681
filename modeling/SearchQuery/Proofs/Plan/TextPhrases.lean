import SearchQuery.Proofs.Plan.Phrases
import SearchQuery.Proofs.Plan.TermLists

/-!
# Phrases of texts

The plan of the phrase of a text has a slot for each position from that of the first token to that
of the last (`Query.lower_textPhrase`).  Positions that no token has are slots without terms, and
tokens that share a position share its slot.  The analyzer may be any one whose positions do not
decrease.
-/

set_option autoImplicit false
namespace SearchQuery

/-- The positions of the tokens do not decrease. -/
def IsOrderedText (tokens : List Token) : Prop := tokens.Pairwise (·.position ≤ ·.position)

/-- Puts a term into a slot; slots that are missing come to exist without terms. -/
def putInSlot (slots : List (List String)) (i : Nat) (word : String) : List (List String) :=
  (slots ++ List.replicate (i + 1 - slots.length) []).modify i (· ++ [word])

theorem length_putInSlot (slots : List (List String)) (i : Nat) (word : String) :
    (putInSlot slots i word).length = max slots.length (i + 1) := by
  simp [putInSlot]
  omega

theorem getElem_putInSlot (slots : List (List String)) (i j : Nat) (word : String) :
    (putInSlot slots i word)[j]?.getD [] =
      slots[j]?.getD [] ++ if i = j then [word] else [] := by
  have grown : (slots ++ List.replicate (i + 1 - slots.length) [])[j]?.getD [] =
      slots[j]?.getD [] := by
    rw [List.getElem?_append, List.getElem?_replicate]
    split
    · rfl
    · have beyond : slots[j]? = none := List.getElem?_eq_none (by omega)
      rw [beyond]
      split <;> rfl
  rw [putInSlot, List.getElem?_modify]
  by_cases h : i = j
  · subst h
    have here : i < (slots ++ List.replicate (i + 1 - slots.length) []).length := by
      simp
      omega
    rw [← grown]
    simp [List.getElem?_eq_getElem here]
  · simp [h, grown]

theorem length_fillSlots (place : Token → Nat) (tokens : List Token)
    (slots : List (List String)) :
    (tokens.foldl (fun slots token => putInSlot slots (place token) token.term) slots).length =
      tokens.foldl (fun n token => max n (place token + 1)) slots.length := by
  induction tokens generalizing slots with
  | nil => rfl
  | cons token rest ih => rw [List.foldl_cons, ih, length_putInSlot, List.foldl_cons]

theorem getElem_fillSlots (place : Token → Nat) (tokens : List Token) (i : Nat)
    (slots : List (List String)) :
    (tokens.foldl (fun slots token => putInSlot slots (place token) token.term) slots)[i]?.getD []
      = slots[i]?.getD [] ++ (tokens.filter fun token => place token == i).map (·.term) := by
  induction tokens generalizing slots with
  | nil => simp
  | cons token rest ih =>
    rw [List.foldl_cons, ih, getElem_putInSlot]
    by_cases h : place token = i <;> simp [h]

/-- The positions of a text are filled by one token after another. -/
theorem positions_eq_foldl (tokens : List Token) :
    positions tokens = tokens.foldl
      (fun slots token => putInSlot slots (placeIn tokens token) token.term) [] := by
  have same := length_fillSlots (placeIn tokens) tokens []
  apply List.ext_getElem
  · rw [same]
    simp [positions, placeIn]
  · intro i h h'
    have filled := getElem_fillSlots (placeIn tokens) tokens i []
    rw [List.getElem?_eq_getElem h'] at filled
    simpa [positions, placeIn] using filled.symm

section Ordered
variable {tokens : List Token}

theorem placeIn_eq (some : tokens ≠ []) (token : Token) :
    placeIn tokens token = (token.position : Nat) - (tokens.head some).position := by
  rw [placeIn, List.head?_eq_some_head some]
  rfl

theorem IsOrderedText.first_le (h : IsOrderedText tokens) (some : tokens ≠ []) :
    ∀ token ∈ tokens, ((tokens.head some).position : Nat) ≤ token.position := by
  intro token mem
  cases tokens with
  | nil => cases mem
  | cons first rest =>
    cases mem with
    | head => exact Nat.le_refl _
    | tail _ mem => exact UInt32.le_iff_toNat_le.1 ((List.pairwise_cons.1 h).1 token mem)

theorem foldl_max_ordered {place : Token → Nat}
    (ordered : tokens.Pairwise fun a b => place a ≤ place b) (some : tokens ≠ []) (n : Nat) :
    tokens.foldl (fun n token => max n (place token + 1)) n =
      max n (place (tokens.getLast some) + 1) := by
  induction tokens generalizing n with
  | nil => exact absurd rfl some
  | cons token rest ih =>
    obtain ⟨behind, inner⟩ := List.pairwise_cons.1 ordered
    by_cases more : rest = []
    · subst more
      rfl
    · have last := behind _ (List.getLast_mem more)
      rw [List.foldl_cons, ih inner more, List.getLast_cons more]
      omega

theorem length_positions (ordered : IsOrderedText tokens) (some : tokens ≠ []) :
    (positions tokens).length =
      ((tokens.getLast some).position : Nat) - (tokens.head some).position + 1 := by
  have places : tokens.Pairwise fun a b => placeIn tokens a ≤ placeIn tokens b := by
    apply ordered.imp
    intro a b h
    have behind := UInt32.le_iff_toNat_le.1 h
    rw [placeIn_eq some, placeIn_eq some]
    omega
  rw [positions_eq_foldl, length_fillSlots, List.length_nil, foldl_max_ordered places some,
    placeIn_eq some]
  omega

theorem mem_positions_ordered (ordered : IsOrderedText tokens) (some : tokens ≠ []) {i : Nat}
    {held : List String} (h : (positions tokens)[i]? = .some held) (word : String) :
    word ∈ held ↔
      ∃ token ∈ tokens,
        (token.position : Nat) = (tokens.head some).position + i ∧ token.term = word := by
  have held_iff : (∃ held, (positions tokens)[i]? = .some held ∧ word ∈ held) ↔
      ∃ token ∈ tokens, placeIn tokens token = i ∧ token.term = word := mem_positions
  rw [h] at held_iff
  simp only [Option.some.injEq, exists_eq_left'] at held_iff
  rw [held_iff]
  refine exists_congr fun token => and_congr_right fun mem => and_congr_left fun _ => ?_
  have start := ordered.first_le some token mem
  rw [placeIn_eq some]
  omega

end Ordered

section Exact
variable {t : Target} {field word : String} {tokens : List Token}

theorem mem_slot_exact {terms : List String} :
    word ∈ slot t field .exact terms ↔ word ∈ terms := by
  have same (term : String) : slotTerms t field .exact term = [term] := rfl
  simp [mem_slot, same]

theorem slot_exact_ordered (ordered : IsOrderedText tokens) (some : tokens ≠ []) {i : Nat}
    {terms : List String}
    (h : ((positions tokens).map (slot t field .exact))[i]? = .some terms) :
    IsAscending terms ∧ ∀ word, word ∈ terms ↔
      ∃ token ∈ tokens,
        (token.position : Nat) = (tokens.head some).position + i ∧ token.term = word := by
  rw [List.getElem?_map] at h
  obtain ⟨held, there, rfl⟩ := Option.map_eq_some_iff.1 h
  refine ⟨isAscending_iff.2 (TermSet.ascending _), fun word => ?_⟩
  rw [mem_slot_exact, mem_positions_ordered ordered some there]

theorem slot_of_token (some : tokens ≠ []) {token : Token} (mem : token ∈ tokens) :
    ∃ terms, ((positions tokens).map (slot t field .exact))[(token.position : Nat) -
      (tokens.head some).position]? = .some terms ∧ token.term ∈ terms := by
  obtain ⟨held, there, word⟩ := mem_positions.2 ⟨token, mem, placeIn_eq some token, rfl⟩
  refine ⟨slot t field .exact held, ?_, mem_slot_exact.2 word⟩
  rw [List.getElem?_map, there]
  rfl

end Exact

namespace Query

theorem lower_textPhrase_eq {t : Target} {words field : String} {name : Option String}
    {fuzziness : Option Fuzziness} {boost : Option Float} {analyze : Analyzer}
    (known : t.analyzer name (t.resolve field) = .ok analyze)
    (exact : fuzziness = none ∨ fuzziness = some (.edits 0)) :
    (onField (.textPhrase words name fuzziness) field boost).lower t =
      .ok (if (analyze words).isEmpty then .nothing t.options
        else
          let slots := (positions (analyze words)).map (slot t (t.resolve field) .exact)
          .ofCondition (.phrase (t.resolve field) slots) boost t.options) := by
  have fixed : fuzzinessOfText fuzziness = .exact := by rcases exact with rfl | rfl <;> rfl
  have checked : valid Fuzziness.exact.check = .ok () := rfl
  rw [lower, lowerTree, Criterion.lower, Criterion.check, fixed, known, checked, ok_bind, ok_bind]
  dsimp only
  split <;> rfl

/-- Without edits, the phrase of a text has a slot for every position between those of the first and
the last token.  A slot holds the terms of the tokens at its position, each once and in order; so
every term is found at its own position, and neither end is left open. -/
theorem lower_textPhrase {t : Target} (words : String) {field : String} {name : Option String}
    {fuzziness : Option Fuzziness} (boost : Option Float) {analyze : Analyzer}
    (known : t.analyzer name (t.resolve field) = .ok analyze)
    (ordered : IsOrderedText (analyze words))
    (exact : fuzziness = none ∨ fuzziness = some (.edits 0)) :
    let tokens := analyze words
    let plan := (onField (.textPhrase words name fuzziness) field boost).lower t
    (tokens = [] → plan = .ok (.nothing t.options)) ∧
    ∀ some : tokens ≠ [],
      let first : Nat := (tokens.head some).position
      let last : Nat := (tokens.getLast some).position
      ∃ slots, plan = .ok (.ofCondition (.phrase (t.resolve field) slots) boost t.options) ∧
        slots.length = last - first + 1 ∧
        (∀ i slot, slots[i]? = .some slot → IsAscending slot ∧
          ∀ word, word ∈ slot ↔
            ∃ token ∈ tokens, (token.position : Nat) = first + i ∧ token.term = word) ∧
        (∀ token ∈ tokens, first ≤ token.position ∧
          ∃ slot, slots[(token.position : Nat) - first]? = .some slot ∧ token.term ∈ slot) ∧
        slots.head? ≠ .some [] ∧ slots.getLast? ≠ .some [] := by
  intro tokens plan
  have lowered : plan = _ := lower_textPhrase_eq known exact
  refine ⟨fun none => ?_, fun some => ?_⟩
  · rw [lowered, show analyze words = [] from none]
    rfl
  intro first last
  let slots := (positions tokens).map (slot t (t.resolve field) .exact)
  have length : slots.length = last - first + 1 := by
    rw [List.length_map, length_positions ordered some]
  refine ⟨slots, ?_, length, fun i _ h => slot_exact_ordered ordered some h,
    fun token mem => ⟨ordered.first_le some token mem, slot_of_token some mem⟩, ?_, ?_⟩
  · rw [lowered, if_neg (by simpa using some)]
  · intro vacant
    obtain ⟨slot, there, word⟩ := slot_of_token some (List.head_mem some)
    rw [Nat.sub_self, ← List.head?_eq_getElem?, vacant] at there
    cases there
    cases word
  · intro vacant
    obtain ⟨slot, there, word⟩ := slot_of_token some (List.getLast_mem some)
    rw [List.getLast?_eq_getElem?, length, Nat.add_sub_cancel, there] at vacant
    cases vacant
    cases word

/-- Two words share the first position, and two positions in front of the last word are left out. -/
theorem lower_textPhrase_gap :
    let tokens : List Token := [⟨"swift", 2, 4, 9⟩, ⟨"quick", 2, 4, 9⟩, ⟨"fox", 5, 17, 20⟩]
    let t : Target :=
      ⟨fun _ => [], (Schema.initial.withAnalyzer "synonyms" fun _ => tokens).mapping, {}⟩
    IsOrderedText tokens ∧
      ∃ slots,
        (onField (.textPhrase "the quick and a fox" (some "synonyms") none) "" none).lower t =
          .ok (.ofCondition (.phrase "_all" slots) none {}) ∧
        slots.length = 4 ∧ ∀ i slot, slots[i]? = some slot →
          ∀ word, word ∈ slot ↔
            ∃ token ∈ tokens, (token.position : Nat) = 2 + i ∧ token.term = word := by
  intro tokens t
  have ordered : IsOrderedText tokens := by
    simp [tokens, IsOrderedText]
  have known : t.analyzer (some "synonyms") (t.resolve "") = .ok fun _ => tokens := rfl
  obtain ⟨slots, plan, length, holds, -⟩ :=
    (lower_textPhrase "the quick and a fox" none known ordered (.inl rfl)).2
      (List.cons_ne_nil _ _)
  exact ⟨ordered, slots, plan, length, fun i slot h => (holds i slot h).2⟩

end Query

end SearchQuery
