/-!
# Edit distance

The number of insertions, deletions and substitutions of one character that turn one text into
another, computed row by row: the row of a prefix of the first text holds its distances to the
prefixes of the second.
-/

set_option autoImplicit false
namespace SearchQuery.EditDistance

/-- The entries of the next row after its first.  `diagonal` is the entry above and to the left,
`left` the last entry made. -/
def advance (c : Char) : List Char → List Nat → Nat → Nat → List Nat
  | d :: ds, above :: row, diagonal, left =>
    let here := min (min (above + 1) (left + 1)) (if c = d then diagonal else diagonal + 1)
    here :: advance c ds row above here
  | _, _, _, _ => []

def nextRow (target : List Char) (row : List Nat) (c : Char) : List Nat :=
  match row with
  | [] => []
  | first :: rest => (first + 1) :: advance c target rest first (first + 1)

/-- The distances of `source` to the prefixes of `target`. -/
def row (source target : List Char) : List Nat :=
  source.foldl (nextRow target) (List.range (target.length + 1))

end SearchQuery.EditDistance

namespace SearchQuery

def editDistance (source target : String) : Nat :=
  (EditDistance.row source.toList target.toList).getLast?.getD 0

end SearchQuery
