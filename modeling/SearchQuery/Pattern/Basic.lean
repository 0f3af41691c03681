import SearchQuery.Text.CodePoints

/-!
# Patterns

The tree of a regular expression as it is written, and what can be wrong with one.  Groups capture
nothing here: only whether a pattern matches is asked.
-/

set_option autoImplicit false
namespace SearchQuery.Pattern

inductive Fault where
  | groupUnclosed | groupUnopened
  | lookAround | backreference
  | groupNameEmpty | groupNameUnclosed | groupNameInvalid | groupNameDuplicate
  | flagUnrecognized | flagDuplicate | flagRepeatedNegation | flagDanglingNegation | flagEnd
  | repetitionMissing | countUnclosed | countEmpty | countInvalid | decimalInvalid
  | escapeEnd | escapeUnrecognized | hexDigit | hexEmpty | hexInvalid | propertyLetter
  | boundaryEnd | boundaryUnclosed | boundaryUnrecognized
  | classUnclosed | classEscape | classBoundary | classRange
  | unicodeNotAllowed | invalidUtf8 | propertyNotFound | propertyValueNotFound
  deriving DecidableEq

def Fault.message : Fault → String
  | groupUnclosed => "unclosed group"
  | groupUnopened => "unopened group"
  | lookAround => "look-around, including look-ahead and look-behind, is not supported"
  | backreference => "backreferences are not supported"
  | groupNameEmpty => "empty capture group name"
  | groupNameUnclosed => "unclosed capture group name"
  | groupNameInvalid => "invalid capture group character"
  | groupNameDuplicate => "duplicate capture group name"
  | flagUnrecognized => "unrecognized flag"
  | flagDuplicate => "duplicate flag"
  | flagRepeatedNegation => "flag negation operator repeated"
  | flagDanglingNegation => "dangling flag negation operator"
  | flagEnd => "expected flag but got end of regex"
  | repetitionMissing => "repetition operator missing expression"
  | countUnclosed => "unclosed counted repetition"
  | countEmpty => "repetition quantifier expects a valid decimal"
  | countInvalid => "invalid repetition count range, the start must be <= the end"
  | decimalInvalid => "decimal literal invalid"
  | escapeEnd => "incomplete escape sequence, reached end of pattern prematurely"
  | escapeUnrecognized => "unrecognized escape sequence"
  | hexDigit => "invalid hexadecimal digit"
  | hexEmpty => "hexadecimal literal empty"
  | hexInvalid => "hexadecimal literal is not a Unicode scalar value"
  | propertyLetter => "invalid Unicode character class"
  | boundaryEnd =>
    "found either the beginning of a special word boundary or a bounded repetition on a \\b " ++
      "with an opening brace, but no closing brace"
  | boundaryUnclosed =>
    "special word boundary assertion is either unclosed or contains an invalid character"
  | boundaryUnrecognized =>
    "unrecognized special word boundary assertion, valid choices are: start, end, start-half or " ++
      "end-half"
  | classUnclosed => "unclosed character class"
  | classEscape => "invalid escape sequence found in character class"
  | classBoundary => "invalid range boundary, must be a literal"
  | classRange => "invalid character class range, the start must be <= the end"
  | unicodeNotAllowed => "Unicode not allowed here"
  | invalidUtf8 => "pattern can match invalid UTF-8"
  | propertyNotFound => "Unicode property not found"
  | propertyValueNotFound => "Unicode property value not found"

inductive Flag where
  | ignoreCase | multiLine | dotAll | swapGreed | unicode | crlf | verbose
  deriving DecidableEq

def Flag.ofLetter? : Char → Option Flag
  | 'i' => some .ignoreCase
  | 'm' => some .multiLine
  | 's' => some .dotAll
  | 'U' => some .swapGreed
  | 'u' => some .unicode
  | 'R' => some .crlf
  | 'x' => some .verbose
  | _ => none

abbrev Switches := List (Flag × Bool)

inductive Anchor where
  | startLine | endLine | startText | endText
  | wordBoundary | notWordBoundary | wordStart | wordEnd | wordStartHalf | wordEndHalf

inductive Shorthand where
  | digit | space | word

/-- A property of characters: by its name alone, or as a name and a value. -/
inductive PropertyRef where
  | named (name : String)
  | valued (name value : String)

/-- A character; `isByte` if it was written as a byte, with two hexadecimal digits. -/
structure Literal where
  char : Char
  isByte : Bool

inductive SetOperator where
  | intersection | difference | symmetricDifference

inductive SetExpr where
  | literal (l : Literal)
  | range (first last : Literal)
  | ascii (negated : Bool) (accepts : Char → Bool)
  | shorthand (negated : Bool) (s : Shorthand)
  | property (negated : Bool) (p : PropertyRef)
  | bracket (negated : Bool) (set : SetExpr)
  | union (items : List SetExpr)
  | combination (op : SetOperator) (left right : SetExpr)

inductive Expr where
  | flags (switches : Switches)
  | literal (l : Literal)
  | dot
  | anchor (a : Anchor)
  | shorthand (negated : Bool) (s : Shorthand)
  | property (negated : Bool) (p : PropertyRef)
  | bracket (negated : Bool) (set : SetExpr)
  | repetition (body : Expr) (min : Nat) (max : Option Nat)
  | group (switches : Switches) (body : Expr)
  | sequence (parts : List Expr)
  | alternatives (branches : List Expr)

def isMeta (c : Char) : Bool :=
  ['\\', '.', '+', '*', '?', '(', ')', '|', '[', ']', '\x7b', '\x7d', '^', '$', '#', '&', '-',
    '~'].contains c

def escapeChar (c : Char) : List Char := if isMeta c then ['\\', c] else [c]

def asciiClasses : List (String × (Char → Bool)) :=
  let within (first last : Char) (c : Char) : Bool := decide (first ≤ c) && decide (c ≤ last)
  let digit := within '0' '9'
  let upper := within 'A' 'Z'
  let lower := within 'a' 'z'
  let alpha := fun c => upper c || lower c
  [("alnum", fun c => digit c || alpha c),
    ("alpha", alpha),
    ("ascii", within '\x00' '\x7f'),
    ("blank", fun c => c == '\t' || c == ' '),
    ("cntrl", fun c => within '\x00' '\x1f' c || c == '\x7f'),
    ("digit", digit),
    ("graph", within '!' '~'),
    ("lower", lower),
    ("print", within ' ' '~'),
    ("punct", fun c => within '!' '~' c && !(digit c || alpha c)),
    ("space", fun c => within '\t' '\r' c || c == ' '),
    ("upper", upper),
    ("word", fun c => digit c || alpha c || c == '_'),
    ("xdigit", fun c => digit c || within 'A' 'F' c || within 'a' 'f' c)]

end SearchQuery.Pattern
