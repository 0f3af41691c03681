import SearchQuery.Json.Record
import SearchQuery.Text.Case

/-!
# Fuzziness

How many edits a term may be away from the one asked for: a fixed number, or a number that follows
from the length of the term.
-/

set_option autoImplicit false
namespace SearchQuery

inductive Fuzziness where
  | edits (n : Int64)
  | auto
  deriving DecidableEq

namespace Fuzziness

def exact : Fuzziness := .edits 0

/-- The edits allowed for a term: with `auto` none up to two characters, one up to five, then
two. -/
def editsFor (f : Fuzziness) (term : String) : Nat :=
  match f with
  | .edits n => n.toInt.toNat
  | .auto => if term.length ≤ 2 then 0 else if term.length ≤ 5 then 1 else 2

def maxEdits : Int := 2

def isValid : Fuzziness → Bool
  | .edits n => decide (0 ≤ n.toInt) && decide (n.toInt ≤ maxEdits)
  | .auto => true

def toJson : Fuzziness → Json
  | .edits n => Json.ofInt64 n
  | .auto => .string "auto"

/-- Reads a whole number or the word `auto` in any case; `refuse` is the reason given for other
words. -/
def read {ε : Type} (refuse : String → ε) : Json.Reader ε Fuzziness
  | .number (.integer n _) =>
    if n < 0x8000000000000000 then .ok (.edits (Int64.ofInt n))
    else .error (.noAlternative "FuzzinessRepr")
  | .string word =>
    if sameIgnoringAsciiCase word "auto" then .ok .auto else .error (.refused (refuse word))
  | _ => .error (.noAlternative "FuzzinessRepr")

end Fuzziness

end SearchQuery
