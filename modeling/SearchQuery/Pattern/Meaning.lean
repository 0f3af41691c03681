import SearchQuery.Pattern.Property
import SearchQuery.Pattern.Reading
import SearchQuery.Pattern.Regex
import SearchQuery.Text.Case

/-!
# The meaning of patterns

A pattern means a regular expression under flags.  A flag holds from where it is set to the end of
the group around it.  Without the Unicode flag only ASCII characters have classes.
-/

set_option autoImplicit false
namespace SearchQuery.Pattern

structure Mode where
  ignoreCase : Bool := false
  multiLine : Bool := false
  dotAll : Bool := false
  unicode : Bool := true
  crlf : Bool := false

def Mode.set (m : Mode) : Flag × Bool → Mode
  | (.ignoreCase, b) => { m with ignoreCase := b }
  | (.multiLine, b) => { m with multiLine := b }
  | (.dotAll, b) => { m with dotAll := b }
  | (.unicode, b) => { m with unicode := b }
  | (.crlf, b) => { m with crlf := b }
  | (.swapGreed, _) => m
  | (.verbose, _) => m

def Mode.switch (m : Mode) (switches : Switches) : Mode := switches.foldl Mode.set m

abbrev CharClass := Char → Bool

def isAscii (c : Char) : Bool := decide (c.toNat < 128)

def caseVariants (m : Mode) (c : Char) : List Char :=
  if m.unicode then LetterCase.variants c
  else if c.isAlpha then [c.toLower, c.toUpper]
  else [c]

def foldClass (m : Mode) (accepts : CharClass) : CharClass :=
  if m.ignoreCase then fun c => accepts c || (caseVariants m c).any accepts else accepts

def negateClass (negated : Bool) (accepts : CharClass) : CharClass :=
  if negated then fun c => !accepts c else accepts

/-- A class with its case variants, negated if asked for.  A negated class of bytes would hold parts
of characters. -/
def finishClass (m : Mode) (negated : Bool) (accepts : CharClass) : Except Fault CharClass :=
  if negated && !m.unicode then .error .invalidUtf8
  else .ok (negateClass negated (foldClass m accepts))

def scalar (m : Mode) (l : Literal) : Except Fault Char :=
  if !m.unicode && l.isByte && !isAscii l.char then .error .invalidUtf8 else .ok l.char

def classScalar (m : Mode) (l : Literal) : Except Fault Char := do
  let c ← scalar m l
  if !m.unicode && !isAscii c then .error .unicodeNotAllowed else .ok c

def asciiClass (name : String) : CharClass := (asciiClasses.lookup name).getD fun _ => false

def shorthandClass (unicode : Bool) : Shorthand → CharClass
  | .digit => if unicode then isDecimalDigit else asciiClass "digit"
  | .space => if unicode then isBlank else asciiClass "space"
  | .word => if unicode then isWordChar else asciiClass "word"

/-- Shorthands hold the case variants of all their members. -/
def shorthandSet (m : Mode) (negated : Bool) (s : Shorthand) : Except Fault CharClass :=
  if negated && !m.unicode then .error .invalidUtf8
  else .ok (negateClass negated (shorthandClass m.unicode s))

def propertySet (m : Mode) (negated : Bool) (p : PropertyRef) : Except Fault CharClass := do
  if !m.unicode then .error .unicodeNotAllowed
  finishClass m negated (← p.set)

def SetOperator.apply (op : SetOperator) (left right : CharClass) : CharClass :=
  match op with
  | .intersection => fun c => left c && right c
  | .difference => fun c => left c && !right c
  | .symmetricDifference => fun c => left c != right c

mutual

def SetExpr.class (m : Mode) : SetExpr → Except Fault CharClass
  | .literal l => do
    let c ← classScalar m l
    return fun x => x == c
  | .range first last => do
    let low ← classScalar m first
    let high ← classScalar m last
    return fun x => decide (low ≤ x) && decide (x ≤ high)
  | .ascii negated accepts => finishClass m negated accepts
  | .shorthand negated s => shorthandSet m negated s
  | .property negated p => propertySet m negated p
  | .bracket negated set => do finishClass m negated (← set.class m)
  | .union items => unionClass m items
  | .combination op left right => do
    let left ← left.class m
    let right ← right.class m
    return op.apply (foldClass m left) (foldClass m right)

def unionClass (m : Mode) : List SetExpr → Except Fault CharClass
  | [] => .ok fun _ => false
  | item :: rest => do
    let first ← item.class m
    let others ← unionClass m rest
    return fun c => first c || others c

end

def isWordAt (unicode : Bool) (c : Option Char) : Bool := c.any (shorthandClass unicode .word)

def startsLine (crlf : Bool) (before behind : Option Char) : Bool :=
  match before with
  | none => true
  | some '\n' => true
  | some '\r' => crlf && behind != some '\n'
  | _ => false

def endsLine (crlf : Bool) (before behind : Option Char) : Bool :=
  match behind with
  | none => true
  | some '\n' => !(crlf && before == some '\r')
  | some '\r' => crlf
  | _ => false

def Anchor.holds (m : Mode) (a : Anchor) (before behind : Option Char) : Bool :=
  let left := isWordAt m.unicode before
  let right := isWordAt m.unicode behind
  match a with
  | .startLine => if m.multiLine then startsLine m.crlf before behind else before.isNone
  | .endLine => if m.multiLine then endsLine m.crlf before behind else behind.isNone
  | .startText => before.isNone
  | .endText => behind.isNone
  | .wordBoundary => left != right
  | .notWordBoundary => left == right
  | .wordStart => !left && right
  | .wordEnd => left && !right
  | .wordStartHalf => !left
  | .wordEndHalf => !right

def literalClass (m : Mode) (c : Char) : CharClass :=
  if m.ignoreCase then fun x => (caseVariants m c).contains x else fun x => x == c

def dotClass (m : Mode) : Except Fault CharClass :=
  if !m.unicode then .error .invalidUtf8
  else if m.dotAll then .ok fun _ => true
  else if m.crlf then .ok fun c => c != '\n' && c != '\r'
  else .ok fun c => c != '\n'

def one (accepts : Except Fault CharClass) : Except Fault Regex := accepts.map .one

mutual

/-- The meaning of a pattern under flags, and the flags behind it. -/
def Expr.regex (m : Mode) : Expr → Except Fault (Regex × Mode)
  | .flags switches => .ok (.sequence [], m.switch switches)
  | .literal l => do
    let c ← scalar m l
    return (.one (literalClass m c), m)
  | .dot => return (← one (dotClass m), m)
  | .anchor a => .ok (.place (a.holds m), m)
  | .shorthand negated s => return (← one (shorthandSet m negated s), m)
  | .property negated p => return (← one (propertySet m negated p), m)
  | .bracket negated set => return (← one ((SetExpr.bracket negated set).class m), m)
  | .repetition body min max => do
    let (r, m) ← body.regex m
    return (.repetition r min max, m)
  | .group switches body => do
    let (r, _) ← body.regex (m.switch switches)
    return (r, m)
  | .sequence parts => do
    let (rs, m) ← regexes m parts
    return (.sequence rs, m)
  | .alternatives branches => do
    let (rs, m) ← regexes m branches
    return (.choice rs, m)

def regexes (m : Mode) : List Expr → Except Fault (List Regex × Mode)
  | [] => .ok ([], m)
  | e :: rest => do
    let (r, m) ← e.regex m
    let (rs, m) ← regexes m rest
    return (r :: rs, m)

end

end SearchQuery.Pattern

namespace SearchQuery

def Regex.ofPattern (pattern : String) : Except Pattern.Fault Regex := do
  let e ← Pattern.Expr.read pattern.toList
  let (r, _) ← e.regex {}
  return r

/-- The pattern put between anchors, so that it has to match a whole text. -/
def Regex.ofWhole (pattern : String) : Except Pattern.Fault Regex :=
  Regex.ofPattern ("^(?:" ++ pattern ++ ")$")

end SearchQuery
