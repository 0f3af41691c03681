/-!
# Sets of terms

A set of terms is kept as the strictly ascending list of its members.  Terms are compared character
by character, which is also the order of their bytes.
-/

set_option autoImplicit false
namespace SearchQuery

def insertAscending (t : String) : List String → List String
  | [] => [t]
  | u :: rest =>
    if t < u then t :: u :: rest
    else if t = u then u :: rest
    else u :: insertAscending t rest

theorem mem_insertAscending {t u : String} {l : List String} :
    u ∈ insertAscending t l ↔ u = t ∨ u ∈ l := by
  induction l with
  | nil => simp [insertAscending]
  | cons v rest ih =>
    rw [insertAscending]
    split
    · simp
    · split
      · rename_i h
        simp [h]
      · simp only [List.mem_cons, ih]
        exact or_left_comm

theorem pairwise_insertAscending {t : String} {l : List String}
    (h : l.Pairwise (· < ·)) : (insertAscending t l).Pairwise (· < ·) := by
  induction l with
  | nil => simp [insertAscending]
  | cons v rest ih =>
    obtain ⟨hv, hr⟩ := List.pairwise_cons.1 h
    rw [insertAscending]
    split
    · rename_i ht
      refine List.pairwise_cons.2 ⟨?_, h⟩
      intro u hu
      rcases List.mem_cons.1 hu with rfl | hu
      · exact ht
      · exact String.lt_trans ht (hv u hu)
    · split
      · exact h
      · rename_i hlt hne
        refine List.pairwise_cons.2 ⟨?_, ih hr⟩
        intro u hu
        rcases mem_insertAscending.1 hu with rfl | hu
        · rcases String.le_total u v with hle | hle
          · exact absurd (String.le_antisymm hle (String.not_lt.1 hlt)) hne
          · exact Decidable.byContradiction fun hn =>
              hne (String.le_antisymm (String.not_lt.1 hn) hle)
        · exact hv u hu

structure TermSet where
  toList : List String
  ascending : toList.Pairwise (· < ·)

namespace TermSet

instance : EmptyCollection TermSet := ⟨⟨[], .nil⟩⟩

def insert (s : TermSet) (t : String) : TermSet :=
  ⟨insertAscending t s.toList, pairwise_insertAscending s.ascending⟩

def insertAll (s : TermSet) (ts : List String) : TermSet := ts.foldl insert s

def ofList (ts : List String) : TermSet := insertAll ∅ ts

@[simp] theorem toList_empty : (∅ : TermSet).toList = [] := rfl

@[simp] theorem mem_insert {s : TermSet} {t u : String} :
    u ∈ (s.insert t).toList ↔ u = t ∨ u ∈ s.toList := mem_insertAscending

theorem mem_insertAll {s : TermSet} {ts : List String} {u : String} :
    u ∈ (s.insertAll ts).toList ↔ u ∈ ts ∨ u ∈ s.toList := by
  induction ts generalizing s with
  | nil => simp [insertAll]
  | cons t rest ih =>
    have step : s.insertAll (t :: rest) = (s.insert t).insertAll rest := rfl
    simp only [step, ih, mem_insert, List.mem_cons]
    constructor
    · rintro (h | h | h)
      · exact .inl (.inr h)
      · exact .inl (.inl h)
      · exact .inr h
    · rintro ((h | h) | h)
      · exact .inr (.inl h)
      · exact .inl h
      · exact .inr (.inr h)

@[simp] theorem mem_ofList {ts : List String} {u : String} :
    u ∈ (ofList ts).toList ↔ u ∈ ts := by
  simp [ofList, mem_insertAll]

end TermSet

end SearchQuery
