import SearchQuery.Pattern.Basic
import SearchQuery.Text.Blank
import SearchQuery.Text.Word

/-!
# Reading patterns

A pattern is read in one pass.  The group that is open is a `Level`; the groups around it wait on a
list.  In verbose mode blanks and comments between the parts of a pattern are left out.
-/

set_option autoImplicit false
namespace SearchQuery.Pattern

abbrev Chars := List Char

def dropIgnored : (comment : Bool) → Chars → Chars
  | _, [] => []
  | true, c :: r => dropIgnored (c != '\n') r
  | false, c :: r =>
    if isBlank c then dropIgnored false r
    else if c = '#' then dropIgnored true r
    else c :: r

def skip (verbose : Bool) (cs : Chars) : Chars := if verbose then dropIgnored false cs else cs

/-- The longest run of characters of a class; in verbose mode blanks and comments do not end it. -/
def takeRun (verbose : Bool) (inClass : Char → Bool) : (comment : Bool) → Chars → Chars × Chars
  | _, [] => ([], [])
  | true, c :: r => takeRun verbose inClass (c != '\n') r
  | false, c :: r =>
    if verbose && isBlank c then takeRun verbose inClass false r
    else if verbose && c == '#' then takeRun verbose inClass true r
    else if inClass c then
      let (run, rest) := takeRun verbose inClass false r
      (c :: run, rest)
    else ([], c :: r)

/-- The first character that is not blank, not counting the first sign of a comment. -/
def glance (verbose : Bool) (cs : Chars) : Option Char :=
  if verbose then
    match cs.dropWhile isBlank with
    | '#' :: r => (r.dropWhile isBlank).head?
    | r => r.head?
  else cs.head?

def isDecimal (c : Char) : Bool := decide ('0' ≤ c) && decide (c ≤ '9')

def decimalOf (digits : Chars) : Except Fault Nat :=
  let n := digits.foldl (fun n d => 10 * n + (d.toNat - 48)) 0
  if digits.isEmpty then .error .countEmpty
  else if n < 0x100000000 then .ok n
  else .error .decimalInvalid

def readDecimal (verbose : Bool) (cs : Chars) : Except Fault Nat × Chars :=
  let (digits, rest) := takeRun verbose isDecimal false (cs.dropWhile isBlank)
  (decimalOf digits, (takeRun verbose isBlank false rest).2)

def hexValue (digits : Chars) : Nat :=
  digits.foldl (fun n d => 16 * n + (hexDigit? d).getD 0) 0

def isHex (c : Char) : Bool := (hexDigit? c).isSome

def charOf (n : Nat) : Except Fault Char :=
  if h : n.isValidChar then .ok (Char.ofNatAux n h) else .error .hexInvalid

def readHexDigits (verbose : Bool) : Nat → Chars → Except Fault (Chars × Chars)
  | 0, cs => .ok ([], cs)
  | _ + 1, [] => .error .escapeEnd
  | n + 1, c :: r =>
    if isHex c then do
      let (digits, rest) ← readHexDigits verbose n (skip verbose r)
      return (c :: digits, rest)
    else .error .hexDigit

def closeHex (verbose : Bool) (run : Chars) : Chars → Except Fault (Expr × Chars)
  | [] => .error .escapeEnd
  | '\x7d' :: rest =>
    if run.isEmpty then .error .hexEmpty
    else do
      let c ← charOf (hexValue run)
      return (.literal ⟨c, false⟩, skip verbose rest)
  | _ => .error .hexDigit

def readHexFrom (verbose : Bool) (digits : Nat) : Chars → Except Fault (Expr × Chars)
  | [] => .error .escapeEnd
  | '\x7b' :: r =>
    let (run, rest) := takeRun verbose isHex false r
    closeHex verbose run rest
  | cs => do
    let (run, rest) ← readHexDigits verbose digits cs
    let c ← charOf (hexValue run)
    return (.literal ⟨c, digits == 2⟩, rest)

def readHex (verbose : Bool) (digits : Nat) (cs : Chars) : Except Fault (Expr × Chars) :=
  readHexFrom verbose digits (skip verbose cs)

def splitAtMark (mark : Chars) : Chars → Option (Chars × Chars)
  | [] => none
  | c :: r =>
    if mark.isPrefixOf (c :: r) then some ([], (c :: r).drop mark.length)
    else (splitAtMark mark r).map fun (before, behind) => (c :: before, behind)

def PropertyRef.ofText (cs : Chars) : PropertyRef :=
  let valued (parts : Chars × Chars) : PropertyRef :=
    .valued (String.ofList parts.1) (String.ofList parts.2)
  match splitAtMark ['!', '='] cs, splitAtMark [':'] cs, splitAtMark ['='] cs with
  | some parts, _, _ => valued parts
  | none, some parts, _ => valued parts
  | none, none, some parts => valued parts
  | none, none, none => .named (String.ofList cs)

def readBracedProperty (verbose negated : Bool) (cs : Chars) : Except Fault (Expr × Chars) :=
  let (name, rest) := takeRun verbose (· != '\x7d') false cs
  match rest with
  | [] => .error .escapeEnd
  | _ :: rest => .ok (.property negated (.ofText name), rest)

def readPropertyFrom (verbose negated : Bool) : Chars → Except Fault (Expr × Chars)
  | [] => .error .escapeEnd
  | c :: r =>
    if c = '\x7b' then readBracedProperty verbose negated r
    else if c = '\\' then .error .propertyLetter
    else .ok (.property negated (.named (String.singleton c)), skip verbose r)

def readProperty (verbose negated : Bool) (cs : Chars) : Except Fault (Expr × Chars) :=
  readPropertyFrom verbose negated (skip verbose cs)

def boundaryNames : List (String × Anchor) := [
  ("start", .wordStart), ("end", .wordEnd),
  ("start-half", .wordStartHalf), ("end-half", .wordEndHalf)]

def isBoundaryLetter (c : Char) : Bool := c.isAlpha || c == '-'

def closeBoundary (name : Chars) : Chars → Except Fault (Expr × Chars)
  | '\x7d' :: rest =>
    match boundaryNames.lookup (String.ofList name) with
    | some a => .ok (.anchor a, rest)
    | none => .error .boundaryUnrecognized
  | _ => .error .boundaryUnclosed

/-- The word boundary behind its letter.  A brace that opens no name of a boundary belongs to a
counted repetition. -/
def readBoundary (verbose : Bool) (cs : Chars) : Except Fault (Expr × Chars) :=
  match cs with
  | '\x7b' :: r =>
    match skip verbose r with
    | [] => .error .boundaryEnd
    | c :: r =>
      if isBoundaryLetter c then
        let (name, rest) := takeRun verbose isBoundaryLetter false (c :: r)
        closeBoundary name rest
      else .ok (.anchor .wordBoundary, cs)
  | _ => .ok (.anchor .wordBoundary, cs)

def isAsciiAlphanumeric (c : Char) : Bool := c.isAlpha || c.isDigit

def isEscapable (c : Char) : Bool :=
  isMeta c || (decide (c.toNat < 128) && !isAsciiAlphanumeric c && c != '<' && c != '>')

def readEscape (verbose : Bool) : Chars → Except Fault (Expr × Chars)
  | [] => .error .escapeEnd
  | c :: r =>
    let literal (c : Char) : Except Fault (Expr × Chars) := .ok (.literal ⟨c, false⟩, r)
    if isEscapable c then literal c
    else if isDecimal c then .error .backreference
    else
      match c with
      | 'x' => readHex verbose 2 r
      | 'u' => readHex verbose 4 r
      | 'U' => readHex verbose 8 r
      | 'p' => readProperty verbose false r
      | 'P' => readProperty verbose true r
      | 'd' => .ok (.shorthand false .digit, r)
      | 'D' => .ok (.shorthand true .digit, r)
      | 's' => .ok (.shorthand false .space, r)
      | 'S' => .ok (.shorthand true .space, r)
      | 'w' => .ok (.shorthand false .word, r)
      | 'W' => .ok (.shorthand true .word, r)
      | 'a' => literal '\x07'
      | 'f' => literal '\x0c'
      | 't' => literal '\t'
      | 'n' => literal '\n'
      | 'r' => literal '\r'
      | 'v' => literal '\x0b'
      | 'A' => .ok (.anchor .startText, r)
      | 'z' => .ok (.anchor .endText, r)
      | 'b' => readBoundary verbose r
      | 'B' => .ok (.anchor .notWordBoundary, r)
      | '<' => .ok (.anchor .wordStart, r)
      | '>' => .ok (.anchor .wordEnd, r)
      | _ => .error .escapeUnrecognized

/-- A class that is open: the items since its last operator, in reverse, and what is before it. -/
structure SetLevel where
  negated : Bool
  pending : Option (SetOperator × SetExpr)
  items : List SetExpr

namespace SetLevel

def push (item : SetExpr) (level : SetLevel) : SetLevel :=
  { level with items := item :: level.items }

def set (level : SetLevel) : SetExpr :=
  match level.pending with
  | none => .union level.items.reverse
  | some (op, left) => .combination op left (.union level.items.reverse)

def operate (op : SetOperator) (level : SetLevel) : SetLevel :=
  { level with pending := some (op, level.set), items := [] }

end SetLevel

def literalItem (c : Char) : SetExpr := .literal ⟨c, false⟩

def takeNegation (verbose : Bool) : Chars → Bool × Chars
  | '^' :: r => (true, skip verbose r)
  | r => (false, r)

def unlessEnded {α : Type} (x : α) : Chars → Except Fault (α × Chars)
  | [] => .error .classUnclosed
  | rest => .ok (x, rest)

def takeBracket (verbose : Bool) (level : SetLevel) : Chars → Except Fault (SetLevel × Chars)
  | ']' :: r => unlessEnded (level.push (literalItem ']')) (skip verbose r)
  | rest => unlessEnded level rest

def openLevel (verbose negated : Bool) (hyphens rest : Chars) : Except Fault (SetLevel × Chars) :=
  let level : SetLevel := ⟨negated, none, hyphens.map literalItem⟩
  if hyphens.isEmpty then takeBracket verbose level rest else unlessEnded level rest

def openSet (verbose : Bool) (cs : Chars) : Except Fault (SetLevel × Chars) :=
  let (negated, start) := takeNegation verbose (skip verbose cs)
  let (hyphens, rest) := takeRun verbose (· == '-') false start
  openLevel verbose negated hyphens rest

def closeAscii (negated : Bool) (name : Chars) : Chars → Option (SetExpr × Chars)
  | ':' :: ']' :: rest =>
    (asciiClasses.lookup (String.ofList name)).map fun accepts => (.ascii negated accepts, rest)
  | _ => none

def asciiName? (negated : Bool) (cs : Chars) : Option (SetExpr × Chars) :=
  closeAscii negated (cs.takeWhile (· != ':')) (cs.dropWhile (· != ':'))

def asciiClass? : Chars → Option (SetExpr × Chars)
  | ':' :: '^' :: r => asciiName? true r
  | ':' :: r => asciiName? false r
  | _ => none

def readSetItem (verbose : Bool) (c : Char) (r : Chars) : Except Fault (Expr × Chars) :=
  if c = '\\' then readEscape verbose r else .ok (.literal ⟨c, false⟩, r)

def setItemOf : Expr → Except Fault SetExpr
  | .literal l => .ok (.literal l)
  | .shorthand negated s => .ok (.shorthand negated s)
  | .property negated p => .ok (.property negated p)
  | _ => .error .classEscape

def boundaryOf : Expr → Except Fault Literal
  | .literal l => .ok l
  | _ => .error .classBoundary

def rangeOf (first last : Expr) : Except Fault SetExpr := do
  let low ← boundaryOf first
  let high ← boundaryOf last
  if high.char < low.char then .error .classRange else return .range low high

def readRangeEnd (verbose : Bool) (first : Expr) : Chars → Except Fault (SetExpr × Chars)
  | [] => .error .classUnclosed
  | c :: r => do
    let (last, rest) ← readSetItem verbose c r
    return (← rangeOf first last, rest)

def readBehindItem (verbose : Bool) (first : Expr) : Chars → Except Fault (SetExpr × Chars)
  | [] => .error .classUnclosed
  | '-' :: r =>
    let next := glance verbose r
    if next = some ']' ∨ next = some '-' then return (← setItemOf first, '-' :: r)
    else readRangeEnd verbose first (skip verbose r)
  | rest => return (← setItemOf first, rest)

/-- An item of a class, or a range.  A hyphen before a closing bracket or another hyphen makes no
range. -/
def readSetRange (verbose : Bool) (c : Char) (r : Chars) : Except Fault (SetExpr × Chars) := do
  let (first, rest) ← readSetItem verbose c r
  readBehindItem verbose first (skip verbose rest)

inductive SetStep where
  | inside (level : SetLevel) (outer : List SetLevel)
  | closed (set : Expr)

def SetLevel.readItem (level : SetLevel) (outer : List SetLevel) (verbose : Bool) (c : Char)
    (r : Chars) : Except Fault (SetStep × Chars) := do
  let (item, rest) ← readSetRange verbose c r
  return (.inside (level.push item) outer, rest)

def SetLevel.readOperator (level : SetLevel) (outer : List SetLevel) (verbose : Bool)
    (op : SetOperator) (c : Char) : Chars → Except Fault (SetStep × Chars)
  | [] => level.readItem outer verbose c []
  | d :: r =>
    if d = c then .ok (.inside (level.operate op) outer, r)
    else level.readItem outer verbose c (d :: r)

/-- Reads what begins with the character `c` in a class; `outer` are the classes around it. -/
def SetLevel.step (level : SetLevel) (outer : List SetLevel) (verbose : Bool) (c : Char)
    (r : Chars) : Except Fault (SetStep × Chars) :=
  match c with
  | '[' =>
    match asciiClass? r with
    | some (item, rest) => .ok (.inside (level.push item) outer, rest)
    | none => do
      let (inner, rest) ← openSet verbose r
      return (.inside inner (level :: outer), rest)
  | ']' =>
    match outer with
    | [] => .ok (.closed (.bracket level.negated level.set), r)
    | parent :: outer => .ok (.inside (parent.push (.bracket level.negated level.set)) outer, r)
  | '&' => level.readOperator outer verbose .intersection c r
  | '-' => level.readOperator outer verbose .difference c r
  | '~' => level.readOperator outer verbose .symmetricDifference c r
  | c => level.readItem outer verbose c r

def readSet (verbose : Bool) : (fuel : Nat) → SetLevel → (outer : List SetLevel) → Chars →
    Except Fault (Expr × Chars)
  | 0, _, _, _ => .error .classUnclosed
  | fuel + 1, level, outer, cs =>
    match skip verbose cs with
    | [] => .error .classUnclosed
    | c :: r => do
      let (next, rest) ← level.step outer verbose c r
      match next with
      | .inside level outer => readSet verbose fuel level outer rest
      | .closed set => .ok (set, rest)

/-- A class behind its opening bracket.  Every step takes a character, so their number is fuel
enough. -/
def readClass (verbose : Bool) (cs : Chars) : Except Fault (Expr × Chars) := do
  let (level, rest) ← openSet verbose cs
  readSet verbose (cs.length + 1) level [] rest

/-- The flags of a group up to its colon or closing parenthesis, which is yielded with them.  `off`
holds behind the negation, and `dangling` right behind it. -/
def readFlags (seen : Switches) (off dangling : Bool) :
    Chars → Except Fault ((Switches × Char) × Chars)
  | [] => .error .flagEnd
  | c :: r =>
    if c = ':' ∨ c = ')' then
      if dangling then .error .flagDanglingNegation else .ok ((seen.reverse, c), r)
    else if c = '-' then
      if off then .error .flagRepeatedNegation else readFlags seen true true r
    else
      match Flag.ofLetter? c with
      | none => .error .flagUnrecognized
      | some f =>
        if seen.any fun s => s.1 == f then .error .flagDuplicate
        else readFlags ((f, !off) :: seen) off false r

def isNameStart (c : Char) : Bool := c == '_' || isAlphabetic c

def isNameChar (c : Char) : Bool :=
  c == '_' || c == '.' || c == '[' || c == ']' || isAlphanumeric c

def takeName : Chars → Chars × Chars
  | [] => ([], [])
  | c :: r =>
    if isNameStart c then (c :: r.takeWhile isNameChar, r.dropWhile isNameChar) else ([], c :: r)

def closeName (names : List String) (valid : Chars) : Chars → Except Fault (String × Chars)
  | [] => .error .groupNameUnclosed
  | '>' :: rest =>
    let name := String.ofList valid
    if name.isEmpty then .error .groupNameEmpty
    else if names.contains name then .error .groupNameDuplicate
    else .ok (name, rest)
  | _ => .error .groupNameInvalid

def readGroupName (names : List String) (cs : Chars) : Except Fault (String × Chars) :=
  let (valid, rest) := takeName cs
  closeName names valid rest

inductive Opening where
  | group (switches : Switches) (name : Option String)
  | flags (switches : Switches)

def lookArounds : List Chars := [['?', '='], ['?', '!'], ['?', '<', '='], ['?', '<', '!']]

def readNamed (names : List String) (cs : Chars) : Except Fault (Opening × Chars) := do
  let (name, rest) ← readGroupName names cs
  return (.group [] (some name), rest)

/-- Flags up to a colon are those of a group.  Without a letter they count as a repetition of
nothing. -/
def readSwitches (cs : Chars) : Except Fault (Opening × Chars) := do
  let ((switches, final), rest) ← readFlags [] false false cs
  if final = ':' then return (.group switches none, rest)
  else if switches.isEmpty then .error .repetitionMissing
  else return (.flags switches, rest)

def readMarked (names : List String) : Chars → Except Fault (Opening × Chars)
  | 'P' :: '<' :: r => readNamed names r
  | cs => readSwitches cs

def readSpecial (names : List String) : Chars → Except Fault (Opening × Chars)
  | [] => .error .groupUnclosed
  | '<' :: r => readNamed names r
  | cs => readMarked names cs

def readGroup (names : List String) : Chars → Except Fault (Opening × Chars)
  | '?' :: r => readSpecial names r
  | cs => .ok (.group [] none, cs)

def readOpeningFrom (names : List String) (start : Chars) : Except Fault (Opening × Chars) :=
  if lookArounds.any (·.isPrefixOf start) then .error .lookAround else readGroup names start

def readOpening (verbose : Bool) (names : List String) (cs : Chars) :
    Except Fault (Opening × Chars) :=
  readOpeningFrom names (skip verbose cs)

/-- A group that is open: its flags, whether it is verbose inside, its finished branches and the
parts of the branch that is open, both in reverse. -/
structure Level where
  switches : Switches
  verbose : Bool
  branches : List Expr
  parts : List Expr

namespace Level

def push (part : Expr) (level : Level) : Level := { level with parts := part :: level.parts }

def branch (level : Level) : Expr := .sequence level.parts.reverse

def split (level : Level) : Level :=
  { level with branches := level.branch :: level.branches, parts := [] }

def body (level : Level) : Expr :=
  if level.branches.isEmpty then level.branch
  else .alternatives (level.branch :: level.branches).reverse

end Level

/-- The groups that are open, the innermost apart, and the names of all groups so far. -/
structure State where
  level : Level
  outer : List Level
  names : List String

def State.start : State := ⟨⟨[], false, [], []⟩, [], []⟩

def State.push (part : Expr) (s : State) : State := { s with level := s.level.push part }

def State.repeatLast (min : Nat) (max : Option Nat) (s : State) : Except Fault State :=
  match s.level.parts with
  | [] => .error .repetitionMissing
  | .flags _ :: _ => .error .repetitionMissing
  | part :: parts =>
    .ok { s with level := { s.level with parts := .repetition part min max :: parts } }

def switched (flag : Flag) (switches : Switches) (current : Bool) : Bool :=
  (switches.lookup flag).getD current

def State.openGroup (s : State) (cs : Chars) : Except Fault (State × Chars) := do
  let (opening, rest) ← readOpening s.level.verbose s.names cs
  match opening with
  | .flags switches =>
    let level := s.level.push (.flags switches)
    return ({ s with level := { level with verbose := switched .verbose switches level.verbose } },
      rest)
  | .group switches name =>
    let level := ⟨switches, switched .verbose switches s.level.verbose, [], []⟩
    return (⟨level, s.level :: s.outer, name.toList ++ s.names⟩, rest)

def State.closeGroup (s : State) : Except Fault State :=
  match s.outer with
  | [] => .error .groupUnopened
  | parent :: outer =>
    .ok ⟨parent.push (.group s.level.switches s.level.body), outer, s.names⟩

/-- Leaves out the question mark behind a repetition, which changes which match is preferred and not
whether there is one. -/
def skipLazy : Chars → Chars
  | '?' :: r => r
  | r => r

def closeCount (verbose : Bool) (min : Nat) (max : Option Nat) (cs : Chars) :
    Except Fault ((Nat × Option Nat) × Chars) :=
  match cs with
  | '\x7d' :: r =>
    if max.any (· < min) then .error .countInvalid
    else .ok ((min, max), skipLazy (skip verbose r))
  | _ => .error .countUnclosed

def readMost (verbose : Bool) (least : Except Fault Nat) :
    Chars → Except Fault ((Nat × Option Nat) × Chars)
  | [] => .error .countUnclosed
  | '\x7d' :: r => do closeCount verbose (← least) none ('\x7d' :: r)
  | r => do
    let min ← least
    let (most, rest) := readDecimal verbose r
    let max ← most
    closeCount verbose min (some max) rest

def readBehindCount (verbose : Bool) (count : Except Fault Nat) :
    Chars → Except Fault ((Nat × Option Nat) × Chars)
  | [] => .error .countUnclosed
  | ',' :: r => readMost verbose count (skip verbose r)
  | rest => do
    let n ← count
    closeCount verbose n (some n) rest

def readCounts (verbose : Bool) (cs : Chars) : Except Fault ((Nat × Option Nat) × Chars) :=
  let (count, rest) := readDecimal verbose (skip verbose cs)
  readBehindCount verbose count rest

def State.step (s : State) (c : Char) (r : Chars) : Except Fault (State × Chars) :=
  let verbose := s.level.verbose
  let again (min : Nat) (max : Option Nat) : Except Fault (State × Chars) := do
    return (← s.repeatLast min max, skipLazy r)
  match c with
  | '(' => s.openGroup r
  | ')' => do return (← s.closeGroup, r)
  | '|' => .ok ({ s with level := s.level.split }, r)
  | '[' => do
    let (set, rest) ← readClass verbose r
    return (s.push set, rest)
  | '?' => again 0 (some 1)
  | '*' => again 0 none
  | '+' => again 1 none
  | '\x7b' => do
    let _ ← s.repeatLast 0 none
    let ((min, max), rest) ← readCounts verbose r
    return (← s.repeatLast min max, rest)
  | '\\' => do
    let (e, rest) ← readEscape verbose r
    return (s.push e, rest)
  | '.' => .ok (s.push .dot, r)
  | '^' => .ok (s.push (.anchor .startLine), r)
  | '$' => .ok (s.push (.anchor .endLine), r)
  | c => .ok (s.push (.literal ⟨c, false⟩), r)

def State.finish (s : State) : Except Fault Expr :=
  match s.outer with
  | [] => .ok s.level.body
  | _ :: _ => .error .groupUnclosed

def State.run : (fuel : Nat) → State → Chars → Except Fault Expr
  | 0, _, _ => .error .groupUnclosed
  | fuel + 1, s, cs =>
    match skip s.level.verbose cs with
    | [] => s.finish
    | c :: r => do
      let (s, rest) ← s.step c r
      run fuel s rest

/-- The tree of a pattern.  Every step takes a character, so their number is fuel enough. -/
def Expr.read (pattern : Chars) : Except Fault Expr :=
  State.start.run (pattern.length + 1) pattern

end SearchQuery.Pattern
