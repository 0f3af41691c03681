import SearchQuery.Text.EditDistance

/-!
# Edits of texts

The edit distance is the least number of characters that have to be inserted, deleted or replaced
to turn one text into another (`editDistance_le_iff`).  The rows that compute it hold the distances
of prefixes, which grow at their ends; so the recursion that they follow is one over the reversed
texts.
-/

set_option autoImplicit false
namespace SearchQuery

/-- One text becomes another by a number of edits of single characters. -/
inductive Edits : Nat → List Char → List Char → Prop
  | done : Edits 0 [] []
  | keep {n : Nat} {s t : List Char} (c : Char) (rest : Edits n s t) : Edits n (c :: s) (c :: t)
  | insert {n : Nat} {s t : List Char} (d : Char) (rest : Edits n s t) : Edits (n + 1) s (d :: t)
  | delete {n : Nat} {s t : List Char} (c : Char) (rest : Edits n s t) : Edits (n + 1) (c :: s) t
  | replace {n : Nat} {s t : List Char} (c d : Char) (rest : Edits n s t) :
    Edits (n + 1) (c :: s) (d :: t)

namespace Edits
variable {m n : Nat} {s t s' t' : List Char}

theorem refl (s : List Char) : Edits 0 s s := by
  induction s with
  | nil => exact done
  | cons c s ih => exact ih.keep c

theorem eq_of_zero (h : Edits 0 s t) : s = t := by
  generalize none : 0 = n at h
  induction h with
  | done => rfl
  | keep c _ ih => rw [ih none]
  | insert | delete | replace => cases none

theorem min (h : Edits m s t) (h' : Edits n s t) : Edits (min m n) s t := by
  rcases Nat.le_total m n with less | more
  · rwa [Nat.min_eq_left less]
  · rwa [Nat.min_eq_right more]

theorem inserts (t : List Char) : Edits t.length [] t := by
  induction t with
  | nil => exact done
  | cons d t ih => exact ih.insert d

theorem deletes (s : List Char) : Edits s.length s [] := by
  induction s with
  | nil => exact done
  | cons c s ih => exact ih.delete c

theorem append (h : Edits n s t) (h' : Edits m s' t') : Edits (n + m) (s ++ s') (t ++ t') := by
  induction h with
  | done => rwa [Nat.zero_add]
  | keep c _ ih => exact ih.keep c
  | insert d _ ih => exact Nat.succ_add _ m ▸ ih.insert d
  | delete c _ ih => exact Nat.succ_add _ m ▸ ih.delete c
  | replace c d _ ih => exact Nat.succ_add _ m ▸ ih.replace c d

theorem reverse (h : Edits n s t) : Edits n s.reverse t.reverse := by
  induction h with
  | done => exact done
  | keep c _ ih => simpa using ih.append (refl [c])
  | insert d _ ih => simpa using ih.append (inserts [d])
  | delete c _ ih => simpa using ih.append (deletes [c])
  | replace c d _ ih => simpa using ih.append (done.replace c d)

end Edits

namespace EditDistance

def least : List Char → List Char → Nat
  | [], t => t.length
  | s, [] => s.length
  | c :: s, d :: t =>
    min (min (least s (d :: t) + 1) (least (c :: s) t + 1))
      (if c = d then least s t else least s t + 1)

@[simp] theorem least_nil_left (t : List Char) : least [] t = t.length := by
  rw [least]

@[simp] theorem least_nil_right (s : List Char) : least s [] = s.length := by
  cases s <;> simp [least]

theorem least_cons_cons (c d : Char) (s t : List Char) : least (c :: s) (d :: t) =
    min (min (least s (d :: t) + 1) (least (c :: s) t + 1))
      (if c = d then least s t else least s t + 1) := by
  rw [least]

theorem least_insert (d : Char) (s t : List Char) : least s (d :: t) ≤ least s t + 1 := by
  cases s with
  | nil => simp
  | cons c s => rw [least_cons_cons]; omega

theorem least_delete (c : Char) (s t : List Char) : least (c :: s) t ≤ least s t + 1 := by
  cases t with
  | nil => simp
  | cons d t => rw [least_cons_cons]; omega

theorem least_le {n : Nat} {s t : List Char} (h : Edits n s t) : least s t ≤ n := by
  induction h with
  | done => simp
  | keep c _ ih =>
    rw [least_cons_cons, if_pos rfl]
    omega
  | insert d _ ih => exact Nat.le_trans (least_insert d _ _) (by omega)
  | delete c _ ih => exact Nat.le_trans (least_delete c _ _) (by omega)
  | replace c d _ ih =>
    rw [least_cons_cons]
    split <;> omega

theorem edits_least (s t : List Char) : Edits (least s t) s t := by
  induction s, t using least.induct with
  | case1 t => simpa using Edits.inserts t
  | case2 s _ => simpa using Edits.deletes s
  | case3 c s d t delete insert replace =>
    rw [least_cons_cons]
    refine ((delete.delete c).min (insert.insert d)).min ?_
    split
    · rename_i same
      subst same
      exact replace.keep c
    · exact replace.replace c d

/-- The distances of a text to what comes of another one as characters are put in front of it. -/
def distances (s : List Char) : List Char → List Char → List Nat
  | _, [] => []
  | t, d :: ds => least s (d :: t) :: distances s (d :: t) ds

theorem range_eq_distances (t ds : List Char) :
    (List.range' (t.length + 1) ds.length) = distances [] t ds := by
  induction ds generalizing t with
  | nil => rfl
  | cons d ds ih =>
    rw [distances, ← ih, least_nil_left]
    rfl

theorem advance_distances (c : Char) (s t ds : List Char) :
    advance c ds (distances s t ds) (least s t) (least (c :: s) t) = distances (c :: s) t ds := by
  induction ds generalizing t with
  | nil => rfl
  | cons d ds ih => rw [distances, advance, distances, ← least_cons_cons, ih]

theorem foldl_nextRow (target s cs : List Char) :
    cs.foldl (nextRow target) (least s [] :: distances s [] target) =
      least (cs.reverse ++ s) [] :: distances (cs.reverse ++ s) [] target := by
  induction cs generalizing s with
  | nil => rfl
  | cons c cs ih =>
    have next : nextRow target (least s [] :: distances s [] target) c =
        least (c :: s) [] :: distances (c :: s) [] target := by
      have first : least s [] + 1 = least (c :: s) [] := by simp
      rw [nextRow, first, advance_distances]
    rw [List.foldl_cons, next, ih, List.reverse_cons, List.append_assoc, List.singleton_append]

theorem row_eq (source target : List Char) :
    row source target = least source.reverse [] :: distances source.reverse [] target := by
  have start : List.range (target.length + 1) = least [] [] :: distances [] [] target := by
    rw [← range_eq_distances, least_nil_left, List.range_eq_range', List.range'_succ]
    rfl
  rw [row, start, foldl_nextRow, List.append_nil]

theorem getLast?_distances (s t ds : List Char) :
    (least s t :: distances s t ds).getLast? = some (least s (ds.reverse ++ t)) := by
  induction ds generalizing t with
  | nil => rfl
  | cons d ds ih =>
    rw [distances, List.getLast?_cons_cons, ih, List.reverse_cons, List.append_assoc,
      List.singleton_append]

end EditDistance

open EditDistance

theorem editDistance_eq (source target : String) :
    editDistance source target = least source.toList.reverse target.toList.reverse := by
  rw [editDistance, row_eq, getLast?_distances, List.append_nil, Option.getD_some]

/-- The edit distance is the least number of edits that turn one text into the other. -/
theorem editDistance_le_iff {source target : String} {n : Nat} :
    editDistance source target ≤ n ↔ ∃ m ≤ n, Edits m source.toList target.toList := by
  rw [editDistance_eq]
  constructor
  · intro small
    have edits := (edits_least source.toList.reverse target.toList.reverse).reverse
    rw [List.reverse_reverse, List.reverse_reverse] at edits
    exact ⟨_, small, edits⟩
  · rintro ⟨m, small, edits⟩
    exact Nat.le_trans (least_le edits.reverse) small

end SearchQuery
