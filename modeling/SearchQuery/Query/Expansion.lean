import SearchQuery.Query.Grammar
import SearchQuery.Query.Path
import SearchQuery.Query.Wire
import SearchQuery.Json.Writer

/-!
# Expansion of query strings

Every query string of a query is replaced by the query that it denotes, and so are those of its
replacement.  Only so many replacements may follow one another on a path from the root.
-/

set_option autoImplicit false
namespace SearchQuery

/-- Why a query string has no replacement.  `ε` holds the reasons of the grammar. -/
inductive ExpansionFault (ε : Type) where
  | grammar (error : ε)
  | tooDeep (text : String)

def maxExpansions : Nat := 64

def ExpansionFault.message {ε : Type} (grammarMessage : ε → String) : ExpansionFault ε → String
  | grammar e => grammarMessage e
  | tooDeep text => s!"query string '{text}' expands deeper than {maxExpansions} levels"

abbrev ExpansionError (ε : Type) := At (ExpansionFault ε)

def ExpansionError.grammarError? {ε : Type} (e : ExpansionError ε) : Option ε :=
  match e.cause with
  | .grammar error => some error
  | .tooDeep _ => none

def ExpansionError.message {ε : Type} (grammarMessage : ε → String) (e : ExpansionError ε) :
    String :=
  At.message (ExpansionFault.message grammarMessage) e

namespace Query

/-- The query with a boost in place of its own, if there is one. -/
def overrideBoost (boost : Option Float) (q : Query) : Query :=
  match boost with
  | some b => q.setBoost b
  | none => q

section Traversal
variable {ε : Type} (onText : String → Option Float → Except (At ε) Query)

mutual

def replaceTexts : Query → Except (At ε) Query
  | .queryString text boost => onText text boost
  | .conjunction cs boost => do
    let cs ← replaceEach .conjunct 0 cs
    return .conjunction cs boost
  | .disjunction ds min boost => do
    let ds ← replaceEach .disjunct 0 ds
    return .disjunction ds min boost
  | .boolean must should mustNot boost => do
    let must ← replaceSlot .must must
    let should ← replaceSlot .should should
    let mustNot ← replaceSlot .mustNot mustNot
    return .boolean must should mustNot boost
  | .onField c field boost => .ok (.onField c field boost)
  | .documents ids boost => .ok (.documents ids boost)
  | .everything boost => .ok (.everything boost)
  | .nothing boost => .ok (.nothing boost)

def replaceEach (step : Nat → Step) (place : Nat) : List Query → Except (At ε) (List Query)
  | [] => .ok []
  | q :: rest => do
    let q ← below (step place) (replaceTexts q)
    let rest ← replaceEach step (place + 1) rest
    return q :: rest

def replaceSlot (step : Step) : Option Query → Except (At ε) (Option Query)
  | none => .ok none
  | some q => do
    let q ← below step (replaceTexts q)
    return some q

end

end Traversal

/-- Expands the query strings of a query, of which `budget` may follow one another. -/
def expandWithin {ε : Type} (parse : String → Except ε Query) :
    (budget : Nat) → Query → Except (ExpansionError ε) Query
  | 0 => replaceTexts fun text _ => .error (.here (.tooDeep text))
  | budget + 1 => replaceTexts fun text boost =>
    match parse text with
    | .error e => .error (.here (.grammar e))
    | .ok q => expandWithin parse budget (q.overrideBoost boost)

/-- Expands the query strings of a query, which `parse` reads. -/
def expandWith {ε : Type} (parse : String → Except ε Query) (q : Query) :
    Except (ExpansionError ε) Query :=
  q.expandWithin parse maxExpansions

def expand (q : Query) : Except (ExpansionError GrammarError) Query := q.expandWith parseQueryString

/-- The indented text of the expanded query. -/
def dump (q : Query) : Except (ExpansionError GrammarError) String :=
  q.expand.map fun e => e.toJson.writePretty

end Query

end SearchQuery
