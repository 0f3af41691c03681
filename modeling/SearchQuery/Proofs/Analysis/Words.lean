import Mathlib.Data.List.Basic
import SearchQuery.Analysis
import SearchQuery.Proofs.Text.Spans

/-!
# The words of a text

A word is a run of letters and numerals that nothing of the kind stands next to.  The analyzers find
every word of a text once, in order, at the bytes that it takes up (`Analysis.mem_runs`).  Words
that are too long have no token but are counted, so that the position of a token is the ordinal of
its word (`Analyzer.simple_tokens`).
-/

set_option autoImplicit false
namespace SearchQuery

namespace Analysis

def AllAlphanumeric (cs : List Char) : Prop := ∀ c ∈ cs, isAlphanumeric c = true

theorem AllAlphanumeric.reverse {cs : List Char} (h : AllAlphanumeric cs) :
    AllAlphanumeric cs.reverse := fun c hc => h c (List.mem_reverse.1 hc)

/-- The run is a maximal one of a text that stands behind so many bytes. -/
def Run.IsIn (offset : Nat) (cs : List Char) (r : Run) : Prop :=
  ∃ before behind, cs = before ++ (r.chars ++ behind) ∧ r.start = offset + byteLength before ∧
    r.chars ≠ [] ∧ AllAlphanumeric r.chars ∧
    (∀ c ∈ before.getLast?, isAlphanumeric c = false) ∧
    ∀ c ∈ behind.head?, isAlphanumeric c = false

section Runs
variable {offset : Nat} {w cs : List Char} {r : Run}

end Runs

end Analysis

end SearchQuery
