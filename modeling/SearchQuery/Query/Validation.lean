import SearchQuery.Calendar.Reading
import SearchQuery.Network.Block
import SearchQuery.Pattern.Wildcard
import SearchQuery.Query.Grammar
import SearchQuery.Query.Path

/-!
# Validation of queries

Every node has a check of its own.  A query is valid if all its nodes pass theirs, where a query
string stands for the query that it denotes; else the first node that does not, in the order of the
text, is reported.
-/

set_option autoImplicit false
namespace SearchQuery

/-- Why a text is no date: none of the given layouts fits, or, without layouts, none of the usual
forms. -/
inductive DateFault where
  | noLayout (layouts : List String)
  | noUsualForm

def DateFault.message : DateFault → String
  | noLayout layouts => "no format matched (" ++ ", ".intercalate layouts ++ ")"
  | noUsualForm => "expected RFC 3339 or YYYY-MM-DD[ HH:MM:SS]"

inductive Violation where
  | fuzziness (edits : Int64)
  | missingBounds (kind : Kind)
  | inverted (kind : Kind) (min max : String)
  | date (value : String) (fault : DateFault)
  | emptyPhrase (kind : Kind)
  | tooFewClauses (min : UInt32) (clauses : Nat)
  | emptyBoolean
  | pattern (pattern : String) (fault : Pattern.Fault)
  | emptyWildcard
  | geo (fault : Geo.Fault)
  | network (block : String) (fault : Network.BlockFault)
  | grammar (error : GrammarError)

def Violation.message : Violation → String
  | fuzziness n => s!"fuzziness {n} is out of range, must be between 0 and 2"
  | missingBounds kind => s!"{kind.name} query must specify min or max"
  | inverted kind min max => s!"{kind.name} query min {min} is greater than max {max}"
  | date value fault => s!"date '{value}' could not be parsed: {fault.message}"
  | emptyPhrase kind => s!"{kind.name} query must contain at least one term"
  | tooFewClauses min clauses =>
    s!"disjunction query has {clauses} clauses but requires {min} to match"
  | emptyBoolean => "boolean query must contain at least one must, should or must_not clause"
  | pattern p fault => s!"invalid regexp '{p}': error: {fault.message}"
  | emptyWildcard => "wildcard query must not be empty"
  | geo fault => fault.message
  | network block fault => s!"invalid cidr '{block}': {fault.message}"
  | grammar e => e.message

abbrev Invalid := At Violation

def Invalid.message (e : Invalid) : String := At.message Violation.message e

def Fuzziness.check (f : Fuzziness) : Except Violation Unit :=
  match f with
  | .edits n => if f.isValid then .ok () else .error (.fuzziness n)
  | .auto => .ok ()

def fuzzinessOfTerm (f : Option Fuzziness) : Fuzziness := f.getD (.edits 1)

def fuzzinessOfText (f : Option Fuzziness) : Fuzziness := f.getD .exact

def patternOf (pattern : String) : Except Violation Regex :=
  (Regex.ofWhole pattern).mapError (.pattern pattern)

def wildcardOf (wildcard : String) : Except Violation Regex :=
  if wildcard.isEmpty then .error .emptyWildcard
  else (Wildcard.regex wildcard).mapError (.pattern wildcard)

def blockOf (text : String) : Except Violation Network.Block :=
  (Network.Block.read text).mapError (.network text)

/-- A range has a bound, and its ends are not inverted; `text` writes an end in a report. -/
def Bounds.check {α : Type} (kind : Kind) (above : α → α → Bool) (text : α → String)
    (b : Bounds α) : Except Violation Unit :=
  match b.min, b.max with
  | none, none => .error (.missingBounds kind)
  | some min, some max =>
    if above min max then .error (.inverted kind (text min) (text max)) else .ok ()
  | _, _ => .ok ()

def Bounds.checkNumeric (b : Bounds Float) : Except Violation Unit :=
  b.check .numericRange (fun min max => decide (max < min)) Decimal.plainText

def Bounds.checkTerms (b : Bounds String) : Except Violation Unit :=
  b.check .termRange (fun min max => decide (max < min)) id

def dateOf (layouts : Option (List String)) (text : String) : Except Violation Calendar.Instant :=
  match layouts with
  | some layouts =>
    match Calendar.instantInAny? layouts text with
    | some i => .ok i
    | none => .error (.date text (.noLayout layouts))
  | none =>
    match Calendar.plainInstant? text with
    | some i => .ok i
    | none => .error (.date text .noUsualForm)

/-- The end of a date range, where an empty text is the same as none. -/
def dateEnd (text : Option String) : Option String := text.filter fun t => !t.isEmpty

def dateEndOf (layouts : Option (List String)) (text : Option String) :
    Except Violation (Option Calendar.Instant) :=
  match dateEnd text with
  | none => .ok none
  | some t => (dateOf layouts t).map some

def Bounds.hasDate (b : Bounds String) : Bool :=
  (dateEnd b.min).isSome || (dateEnd b.max).isSome

def Bounds.dates (layouts : Option (List String)) (b : Bounds String) :
    Except Violation (Bounds Calendar.Instant) := do
  if !b.hasDate then .error (.missingBounds .dateRange)
  let start ← dateEndOf layouts b.min
  let stop ← dateEndOf layouts b.max
  let dates : Bounds Calendar.Instant := ⟨start, stop, b.inclusiveMin, b.inclusiveMax⟩
  dates.check .dateRange (fun s t => !decide (s ≤ t)) Calendar.Instant.text
  return dates

def Bounds.checkDates (parser : Option String) (b : Bounds String) : Except Violation Unit :=
  match parser with
  | some _ => if b.hasDate then .ok () else .error (.missingBounds .dateRange)
  | none => (b.dates none).map fun _ => ()

def checkGeo {α : Type} (r : Except Geo.Fault α) : Except Violation α := r.mapError .geo

def checkDisk (center : Geo.Point) (distance : String) : Except Violation Float := do
  checkGeo center.check
  checkGeo (Geo.checkDistance distance)

def Criterion.check : Criterion → Except Violation Unit
  | .term _ => .ok ()
  | .fuzzy _ _ fuzziness => (fuzzinessOfTerm fuzziness).check
  | .stem _ => .ok ()
  | .regexp p => (patternOf p).map fun _ => ()
  | .wildcard w => (wildcardOf w).map fun _ => ()
  | .flag _ => .ok ()
  | .text _ _ _ fuzziness _ => (fuzzinessOfText fuzziness).check
  | .textPhrase _ _ fuzziness => (fuzzinessOfText fuzziness).check
  | .phrase terms fuzziness =>
    if terms.isEmpty then .error (.emptyPhrase .phrase) else (fuzzinessOfText fuzziness).check
  | .multiPhrase terms fuzziness =>
    if terms.all (·.isEmpty) then .error (.emptyPhrase .multiPhrase)
    else (fuzzinessOfText fuzziness).check
  | .numericRange b => b.checkNumeric
  | .termRange b => b.checkTerms
  | .dateRange b parser => b.checkDates parser
  | .geoBox topLeft bottomRight => checkGeo (Geo.checkBox topLeft bottomRight)
  | .geoDistance center distance => (checkDisk center distance).map fun _ => ()
  | .geoPolygon points => checkGeo (Geo.checkPolygonPoints points)
  | .geoShape shape _ => checkGeo shape.check
  | .network block => (blockOf block).map fun _ => ()

def checkClauses (clauses : Nat) (min : Option UInt32) : Except Violation Unit :=
  let least := min.getD 0
  if clauses < least.toNat then .error (.tooFewClauses least clauses) else .ok ()

namespace Query

/-- The check of a node alone, which leaves its children and the text of a query string aside. -/
def checkNode : Query → Except Violation Unit
  | .onField c _ _ => c.check
  | .disjunction ds min _ => checkClauses ds.length min
  | .boolean none none none _ => .error .emptyBoolean
  | _ => .ok ()

section Traversal
variable (onText : String → Except Invalid Unit)

mutual

def checkTree : Query → Except Invalid Unit
  | .onField c field boost => (checkNode (.onField c field boost)).mapError At.here
  | .documents _ _ => .ok ()
  | .everything _ => .ok ()
  | .nothing _ => .ok ()
  | .queryString text _ => onText text
  | .conjunction cs _ => checkEach .conjunct 0 cs
  | .disjunction ds min boost => do
    (checkNode (.disjunction ds min boost)).mapError At.here
    checkEach .disjunct 0 ds
  | .boolean must should mustNot boost => do
    (checkNode (.boolean must should mustNot boost)).mapError At.here
    checkSlot .must must
    checkSlot .should should
    checkSlot .mustNot mustNot

def checkEach (step : Nat → Step) (place : Nat) : List Query → Except Invalid Unit
  | [] => .ok ()
  | q :: rest => do
    below (step place) (checkTree q)
    checkEach step (place + 1) rest

def checkSlot (step : Step) : Option Query → Except Invalid Unit
  | none => .ok ()
  | some q => below step (checkTree q)

end

end Traversal

/-- The check of a query string: its text follows the grammar, and the query that it denotes, which
holds no further query strings, is valid. -/
def checkText (text : String) : Except Invalid Unit :=
  match parseQueryString text with
  | .error e => .error (.here (.grammar e))
  | .ok q => checkTree (fun _ => .ok ()) q

def validate (q : Query) : Except Invalid Unit := q.checkTree checkText

end Query

end SearchQuery
