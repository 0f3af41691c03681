import SearchQuery.PreSearch
import SearchQuery.Query.Decode
import SearchQuery.Query.Expansion
import SearchQuery.Query.Validation

/-!
# The command line

A command reads a query, a query string or pre-search data and reports on it.  What it prints and
its status follow from its arguments and its input alone.
-/

set_option autoImplicit false
namespace SearchQuery

inductive Source where
  | standardInput
  | file (path : String)

inductive Command where
  | dump (source : Source)
  | validate (source : Source)
  | parse (text : String)
  | presearch (source : Source)

structure Outcome where
  status : UInt8
  output : String
  errors : String

abbrev Report := List String

namespace Report

def indented (first next : String) (message : String) : String :=
  first ++ ("\n" ++ next).intercalate (message.splitOn "\n")

def causes : List String → String
  | [cause] => "\n" ++ indented "    " "    " cause
  | many => String.join <| many.zipIdx.map fun (cause, i) =>
    let number := toString i
    let blanks := String.ofList (List.replicate (5 - number.length) ' ')
    "\n" ++ indented (blanks ++ number ++ ": ") "       " cause

def text : Report → String
  | [] => "Error: \n"
  | [message] => "Error: " ++ message ++ "\n"
  | message :: rest => "Error: " ++ message ++ "\n\nCaused by:" ++ causes rest ++ "\n"

end Report

def Query.TextError.report (e : Query.TextError) : Report :=
  e.message :: match e with
    | .malformed error => [error.message]
    | .undecodable (.shape _ mismatch) => [mismatchMessage mismatch]
    | .undecodable _ => []

def At.report {ε : Type} (text : ε → String) (e : At ε) : Report :=
  e.path.foldr (fun step inner => (step.text ++ ": " ++ inner.headD "") :: inner) [text e.cause]

def PreSearchError.report (e : PreSearchError) : Report :=
  e.message :: match e with
    | .malformed error => [error.message]
    | .payload _ mismatch => [mismatch.message Empty.elim]

namespace Outcome

def success (output : String) : Outcome := ⟨0, output, ""⟩

def failure (report : Report) : Outcome := ⟨1, "", report.text⟩

def misuse : Outcome :=
  ⟨2, "", "usage: [--no-color] dump|validate|presearch [FILE]\n" ++
    "       [--no-color] parse TEXT...\n"⟩

end Outcome

namespace Command

/-- The switch that turns colours off, which are never on. -/
def plainSwitch : String := "--no-color"

def skipSwitches : List String → List String
  | [] => []
  | a :: rest => if a = plainSwitch then skipSwitches rest else a :: rest

def isPlain (argument : String) : Bool := !argument.startsWith "-" || argument = "-"

def source? (arguments : List String) : Option Source :=
  match skipSwitches arguments with
  | [] => some .standardInput
  | ["--"] => some .standardInput
  | ["--", path] => some (.file path)
  | path :: rest =>
    if isPlain path && (skipSwitches rest).isEmpty then some (.file path) else none

/-- The words of a query string, all of them once the first has been met. -/
def words? (arguments : List String) : Option (List String) :=
  match skipSwitches arguments with
  | [] => none
  | "--" :: words => if words.isEmpty then none else some words
  | word :: rest => if isPlain word then some (word :: rest) else none

def ofArguments? (arguments : List String) : Option Command :=
  match skipSwitches arguments with
  | "dump" :: rest => (source? rest).map dump
  | "validate" :: rest => (source? rest).map validate
  | "parse" :: rest => (words? rest).map fun words => parse (" ".intercalate words)
  | "presearch" :: rest => (source? rest).map presearch
  | _ => none

def source : Command → Option Source
  | dump s => some s
  | validate s => some s
  | parse _ => none
  | presearch s => some s

def runDump (input : List UInt8) : Outcome :=
  match Query.read input with
  | .error e => .failure ("Failed to decode query" :: e.report)
  | .ok q =>
    match q.dump with
    | .error e =>
      .failure ("Failed to expand query" :: e.report (ExpansionFault.message GrammarError.message))
    | .ok text => .success (text ++ "\n")

def runValidate (input : List UInt8) : Outcome :=
  match Query.read input with
  | .error e => .failure ("Failed to decode query" :: e.report)
  | .ok q =>
    match q.validate with
    | .ok () => .success s!"valid {q.kind.name} query\n"
    | .error e => ⟨1, s!"invalid {q.kind.name} query: {e.message}\n", ""⟩

def runParse (text : String) : Outcome :=
  match parseQueryString text with
  | .error e => .failure [e.message]
  | .ok q => .success (q.toJson.writePretty ++ "\n")

def hitLine (h : Hit) : String :=
  (if h.index.isEmpty then "" else h.index ++ ":") ++ h.id ++ " " ++ Decimal.fixedText 4 h.score ++
    "\n"

def runPresearch (input : List UInt8) : Outcome :=
  match PreSearch.read input with
  | .error e => .failure ("Failed to decode pre-search data" :: e.report)
  | .ok data =>
    let hits := data.ranked
    .success (s!"{hits.length} knn candidates\n" ++ String.join (hits.map hitLine))

def run (input : List UInt8) : Command → Outcome
  | dump _ => runDump input
  | validate _ => runValidate input
  | parse text => runParse text
  | presearch _ => runPresearch input

def unreadable (source : Source) (reason : String) : Outcome :=
  match source with
  | .standardInput => .failure ["Failed to read stdin", reason]
  | .file path => .failure [s!"Failed to read {path}", reason]

/-- The outcome of a command line; `read` yields the bytes of a source, or the reason why there are
none. -/
def execute {m : Type → Type} [Monad m] (read : Source → m (Except String (List UInt8)))
    (arguments : List String) : m Outcome :=
  match ofArguments? arguments with
  | none => return .misuse
  | some command =>
    match command.source with
    | none => return command.run []
    | some source => do
      match ← read source with
      | .ok input => return command.run input
      | .error reason => return unreadable source reason

end Command

def runCommandLine (readFile : String → Except String (List UInt8)) (standardInput : List UInt8)
    (arguments : List String) : Outcome :=
  let read : Source → Id (Except String (List UInt8))
    | .standardInput => .ok standardInput
    | .file path => readFile path
  (Command.execute read arguments).run

end SearchQuery
