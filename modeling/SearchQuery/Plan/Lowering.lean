import SearchQuery.Mapping
import SearchQuery.Plan.Basic
import SearchQuery.Query.Validation
import SearchQuery.Text.EditDistance
import SearchQuery.Text.TermSet

/-!
# From queries to plans

A query is lowered to a plan for one index: fields are resolved and checked against the mapping,
texts are analyzed, and patterns are replaced by the terms of the dictionary that they match.
-/

set_option autoImplicit false
namespace SearchQuery

/-- Why a query has no plan. -/
inductive PlanError where
  | cancelled
  | unknownField (field : String)
  | fieldType (kind : Kind) (field : String) (expected actual : FieldType)
  | unknownAnalyzer (name : String)
  | unknownDateParser (name : String)
  | invalid (violation : Violation)
  | grammar (error : GrammarError)

def PlanError.message : PlanError → String
  | cancelled => "compilation cancelled"
  | unknownField field => s!"unknown field '{field}'"
  | fieldType kind field expected actual =>
    s!"{kind.name} query cannot search field '{field}' mapped as {actual.name}, " ++
      s!"expected {expected.name}"
  | unknownAnalyzer name => s!"unknown analyzer '{name}'"
  | unknownDateParser name => s!"unknown date time parser '{name}'"
  | invalid v => v.message
  | grammar e => e.message

/-- What a query is lowered against: the terms of every field, the mapping of the fields, and the
options of the search. -/
structure Target where
  terms : String → List String
  mapping : Mapping
  options : Options

namespace Target

/-- An empty name stands for the default field. -/
def resolve (t : Target) (field : String) : String :=
  if field.isEmpty then t.mapping.defaultField else field

/-- Checks that a field holds values of a type; in a dynamic mapping unmapped fields pass. -/
def checkField (t : Target) (kind : Kind) (field : String) (expected : FieldType) :
    Except PlanError Unit :=
  match t.mapping.fieldType field with
  | some actual =>
    if actual = expected then .ok () else .error (.fieldType kind field expected actual)
  | none => if t.mapping.isDynamic then .ok () else .error (.unknownField field)

def analyzer (t : Target) (name : Option String) (field : String) : Except PlanError Analyzer :=
  match name with
  | none => .ok (t.mapping.analyzerFor field)
  | some name =>
    match t.mapping.analyzerNamed name with
    | some analyze => .ok analyze
    | none => .error (.unknownAnalyzer name)

def layouts (t : Target) (parser : Option String) : Except PlanError (Option (List String)) :=
  match parser with
  | none => .ok none
  | some name =>
    match t.mapping.dateLayouts name with
    | some layouts => .ok (some layouts)
    | none => .error (.unknownDateParser name)

def sharesPrefix (length : Nat) (term candidate : String) : Bool :=
  (term.toList.take length).isPrefixOf candidate.toList

def similarTerms (t : Target) (field term : String) (edits prefixLength : Nat) : List String :=
  (t.terms field).filter fun candidate =>
    sharesPrefix prefixLength term candidate && decide (editDistance term candidate ≤ edits)

end Target

def valid {α : Type} (r : Except Violation α) : Except PlanError α := r.mapError .invalid

def slotTerms (t : Target) (field : String) (fuzziness : Fuzziness) (term : String) : List String :=
  let edits := fuzziness.editsFor term
  if edits = 0 then [term] else t.similarTerms field term edits 0

def slot (t : Target) (field : String) (fuzziness : Fuzziness) (terms : List String) :
    List String :=
  (TermSet.ofList (terms.flatMap (slotTerms t field fuzziness))).toList

/-- The terms of tokens by their positions, from the position of the first token on. -/
def positions (tokens : List Token) : List (List String) :=
  let first := (tokens.head?.map (·.position)).getD 0
  let place (token : Token) : Nat := (token.position : Nat) - first
  let count := tokens.foldl (fun n token => max n (place token + 1)) 0
  (List.range count).map fun i => (tokens.filter fun token => place token == i).map (·.term)

def termCondition (t : Target) (field : String) (prefixLength : Nat) (fuzziness : Fuzziness)
    (term : String) : Condition :=
  let edits := fuzziness.editsFor term
  if edits = 0 then .term field term
  else .anyTerm field (t.similarTerms field term edits prefixLength)

def textPlan (t : Target) (field : String) (prefixLength : Nat) (fuzziness : Fuzziness)
    (operator : Operator) (boost : Option Float) (tokens : List Token) : Plan :=
  let child (token : Token) (boost : Option Float) : Plan :=
    .ofCondition (termCondition t field prefixLength fuzziness token.term) boost t.options
  match tokens with
  | [] => .nothing t.options
  | [token] => child token boost
  | tokens =>
    let children := tokens.map (child · none)
    match operator with
    | .or => .disjunction children 1 (boost.getD Query.defaultBoost) t.options
    | .and => .conjunction children (boost.getD Query.defaultBoost) t.options

def flagTerm (value : Bool) : String := if value then "T" else "F"

def Bounds.containsTerm (b : Bounds String) (term : String) : Bool :=
  (match b.min with
    | none => true
    | some min => if b.includesMin then decide (min ≤ term) else decide (min < term)) &&
  match b.max with
    | none => true
    | some max => if b.includesMax then decide (term ≤ max) else decide (term < max)

def Criterion.lower (t : Target) (field : String) (boost : Option Float) (c : Criterion) :
    Except PlanError Plan :=
  let kind := c.kind
  let leaf (condition : Condition) : Plan := .ofCondition condition boost t.options
  let chosen (accepts : String → Bool) : Plan :=
    .anyTerm field ((t.terms field).filter accepts) boost t.options
  match c with
  | .term word => .ok (leaf (.term field word))
  | .fuzzy word prefixLength fuzziness => do
    valid c.check
    let edits := (fuzzinessOfTerm fuzziness).editsFor word
    if edits = 0 then return leaf (.term field word)
    else
      let terms := t.similarTerms field word edits (prefixLength.getD 0).toNat
      return .anyTerm field terms boost t.options
  | .stem start => .ok (chosen fun word => start.toList.isPrefixOf word.toList)
  | .regexp pattern => do
    let r ← valid (patternOf pattern)
    return chosen r.isMatch
  | .wildcard pattern => do
    let r ← valid (wildcardOf pattern)
    return chosen r.isMatch
  | .flag value => do
    t.checkField kind field .boolean
    return leaf (.term field (flagTerm value))
  | .text words analyzer prefixLength fuzziness operator => do
    valid c.check
    let analyze ← t.analyzer analyzer field
    return textPlan t field (prefixLength.getD 0).toNat (fuzzinessOfText fuzziness)
      (operator.getD .or) boost (analyze words)
  | .textPhrase words analyzer fuzziness => do
    valid c.check
    let analyze ← t.analyzer analyzer field
    let tokens := analyze words
    if tokens.isEmpty then return .nothing t.options
    else
      let slots := (positions tokens).map (slot t field (fuzzinessOfText fuzziness))
      return leaf (.phrase field slots)
  | .phrase terms fuzziness => do
    valid c.check
    let slots := terms.map fun word => slot t field (fuzzinessOfText fuzziness) [word]
    return leaf (.phrase field slots)
  | .multiPhrase terms fuzziness => do
    valid c.check
    return leaf (.phrase field (terms.map (slot t field (fuzzinessOfText fuzziness))))
  | .numericRange b => do
    valid c.check
    t.checkField kind field .numeric
    return leaf (.numericRange field b.interval)
  | .termRange b => do
    valid c.check
    return chosen b.containsTerm
  | .dateRange b parser => do
    t.checkField kind field .dateTime
    let layouts ← t.layouts parser
    let dates ← valid (b.dates layouts)
    return leaf (.dateRange field dates.interval)
  | .geoBox topLeft bottomRight => do
    valid c.check
    t.checkField kind field .geoPoint
    return leaf (.geoBox field topLeft bottomRight)
  | .geoDistance center distance => do
    let meters ← valid (checkDisk center distance)
    t.checkField kind field .geoPoint
    return leaf (.geoDistance field center meters)
  | .geoPolygon points => do
    valid c.check
    t.checkField kind field .geoPoint
    return leaf (.geoPolygon field points)
  | .geoShape shape relation => do
    valid c.check
    t.checkField kind field .geoShape
    return leaf (.geoShape field shape relation)
  | .network written => do
    let block ← valid (blockOf written)
    t.checkField kind field .ip
    return leaf (.network field block)

def documentsPlan (ids : List String) (boost : Option Float) (options : Options) : Plan :=
  let ids := (TermSet.ofList ids).toList
  if ids.isEmpty then .nothing options else .ofCondition (.documents ids) boost options

/-- The plan of a boolean query from the plans of its slots.  Exclusions alone exclude from all
documents. -/
def booleanPlan (must should mustNot : Option Plan) (boost : Option Float) (options : Options) :
    Plan :=
  let combine (must : Option Plan) : Plan :=
    .boolean must should mustNot (boost.getD Query.defaultBoost) options
  match must, should, mustNot with
  | none, none, none => .nothing options
  | none, none, some _ => combine (some (.ofCondition .everything none options))
  | must, _, _ => combine must

namespace Query

section Traversal
variable (t : Target) (onText : String → Except PlanError Plan)

mutual

/-- Lowers a query; `onText` lowers the texts of query strings, whose own boost is not used. -/
def lowerTree : Query → Except PlanError Plan
  | .onField c field boost => c.lower t (t.resolve field) boost
  | .documents ids boost => .ok (documentsPlan ids boost t.options)
  | .everything boost => .ok (.ofCondition .everything boost t.options)
  | .nothing boost => .ok (.ofCondition .nothing boost t.options)
  | .queryString text _ => onText text
  | .conjunction cs boost =>
    if cs.isEmpty then .ok (.nothing t.options)
    else do
      let children ← lowerEach cs
      return .conjunction children (boost.getD defaultBoost) t.options
  | .disjunction ds min boost => do
    valid (checkClauses ds.length min)
    if ds.isEmpty then return .nothing t.options
    else
      let children ← lowerEach ds
      return .disjunction children (min.getD 0).toNat (boost.getD defaultBoost) t.options
  | .boolean must should mustNot boost => do
    let must ← lowerSlot must
    let should ← lowerSlot should
    let mustNot ← lowerSlot mustNot
    return booleanPlan must should mustNot boost t.options

def lowerEach : List Query → Except PlanError (List Plan)
  | [] => .ok []
  | q :: rest => do
    let p ← lowerTree q
    let ps ← lowerEach rest
    return p :: ps

def lowerSlot : Option Query → Except PlanError (Option Plan)
  | none => .ok none
  | some q => do
    let p ← lowerTree q
    return some p

end

end Traversal

def lowerText (t : Target) (text : String) : Except PlanError Plan :=
  match parseQueryString text with
  | .error e => .error (.grammar e)
  | .ok q => q.lowerTree t fun _ => .ok (.nothing t.options)

def lower (t : Target) (q : Query) : Except PlanError Plan := q.lowerTree t (lowerText t)

end Query

/-- Whether a search has been called off. -/
structure Context where
  cancelled : Bool := false

namespace Context

def cancel (_ : Context) : Context := ⟨true⟩

def check (c : Context) : Except PlanError Unit :=
  if c.cancelled then .error .cancelled else .ok ()

end Context

/-- The plan of a query, unless the search has been called off. -/
def Query.compile (context : Context) (t : Target) (q : Query) : Except PlanError Plan := do
  context.check
  q.lower t

end SearchQuery
