import SearchQuery.Query.Basic

/-!
# Paths

A path leads from the root of a query to one of the nodes below it.  A report on a node carries the
path to it.
-/

set_option autoImplicit false
namespace SearchQuery

inductive Step where
  | conjunct (place : Nat)
  | disjunct (place : Nat)
  | must | should | mustNot
  deriving DecidableEq

def Step.text : Step → String
  | conjunct i => s!"conjuncts[{i}]"
  | disjunct i => s!"disjuncts[{i}]"
  | must => "must"
  | should => "should"
  | mustNot => "must_not"

/-- Something about the node at the end of a path. -/
structure At (ε : Type) where
  path : List Step
  cause : ε

namespace At
variable {ε : Type}

def here (cause : ε) : At ε := ⟨[], cause⟩

def below (step : Step) (e : At ε) : At ε := ⟨step :: e.path, e.cause⟩

/-- Every step of the path stands before the message, with a colon behind it. -/
def message (text : ε → String) (e : At ε) : String :=
  e.path.foldr (fun step rest => step.text ++ ": " ++ rest) (text e.cause)

end At

def below {ε α : Type} (step : Step) (r : Except (At ε) α) : Except (At ε) α :=
  r.mapError (At.below step)

end SearchQuery
