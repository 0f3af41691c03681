import SearchQuery.Proofs.Decimal.Numerals
import SearchQuery.Proofs.Decimal.Sign
import SearchQuery.Proofs.Query.Clauses

/-!
# Writing query strings

A notation for query strings in which nothing is left to chance: every character of a word stands
behind a backslash, and so does what would end a phrase or a pattern.  The parser takes every text
in this notation to the query that its clauses denote.
-/

set_option autoImplicit false
namespace SearchQuery.Grammar
open Decimal (DigitList Numeral SignedNumeral)

structure Edits where
  digits : DigitList
  small : digits.value < 0x8000000000000000

def Edits.fuzziness (e : Edits) : Fuzziness :=
  .edits (if e.digits = [] then 1 else Int64.ofNat e.digits.value)

/-- A part of a pattern: a character, or a backslash with the character that it escapes.  A slash
needs no backslash in a pattern, only in a query string. -/
inductive PatternPart where
  | plain (c : Char) (h : c ≠ '\\')
  | pair (c : Char) (h : c ≠ '/')

namespace PatternPart

def text : PatternPart → List Char
  | plain c _ => [c]
  | pair c _ => ['\\', c]

def written : PatternPart → List Char
  | plain c _ => if c = '/' then ['\\', '/'] else [c]
  | pair c _ => ['\\', c]

end PatternPart

inductive Atom where
  | word (text : String) (nonempty : text ≠ "") (edits : Option Edits)
  | phrase (text : String)
  | pattern (parts : List PatternPart)

inductive Comparison where
  | above | atLeast | below | atMost

inductive Operand where
  | number (n : SignedNumeral)
  | date (text : String)

inductive Body where
  | anywhere (atom : Atom)
  | within (field : String) (nonempty : field ≠ "") (atom : Atom)
  | comparison (field : String) (nonempty : field ≠ "") (comparison : Comparison)
      (operand : Operand)

structure Boost where
  numeral : Numeral
  finite : numeral.toFloat.isFinite = true

structure Clause where
  occur : Occur
  body : Body
  boost : Option Boost

def escaped (text : String) : List Char := text.toList.flatMap fun c => ['\\', c]

def quotedChar (c : Char) : List Char := if c = '"' ∨ c = '\\' then ['\\', c] else [c]

def inQuotes (text : String) : List Char := '"' :: text.toList.flatMap quotedChar ++ ['"']

namespace Atom

def writtenEdits : Option Edits → List Char
  | none => []
  | some e => '~' :: e.digits.text

def written : Atom → List Char
  | word text _ edits => escaped text ++ writtenEdits edits
  | phrase text => inQuotes text
  | pattern parts => '/' :: parts.flatMap PatternPart.written ++ ['/']

def criterion : Atom → Criterion
  | word text _ edits => .text text none none (edits.map Edits.fuzziness) none
  | phrase text => .textPhrase text none none
  | pattern parts => .regexp (String.ofList (parts.flatMap PatternPart.text))

end Atom

namespace Comparison

def written : Comparison → List Char
  | above => ['>']
  | atLeast => ['>', '=']
  | below => ['<']
  | atMost => ['<', '=']

def bounds {α : Type} (x : α) : Comparison → Bounds α
  | above => ⟨some x, none, some false, none⟩
  | atLeast => ⟨some x, none, some true, none⟩
  | below => ⟨none, some x, none, some false⟩
  | atMost => ⟨none, some x, none, some true⟩

end Comparison

namespace Operand

def written : Operand → List Char
  | number n => n.text
  | date text => inQuotes text

def criterion (c : Comparison) : Operand → Criterion
  | number n => .numericRange (c.bounds n.toFloat)
  | date text => .dateRange (c.bounds text) none

end Operand

namespace Body

def written : Body → List Char
  | anywhere atom => atom.written
  | within field _ atom => escaped field ++ ':' :: atom.written
  | comparison field _ c operand => escaped field ++ ':' :: c.written ++ operand.written

def query (boost : Option Float) : Body → Query
  | anywhere atom => .onField atom.criterion "" boost
  | within field _ atom => .onField atom.criterion field boost
  | comparison field _ c operand => .onField (operand.criterion c) field boost

end Body

def Occur.written : Occur → List Char
  | must => ['+']
  | should => []
  | mustNot => ['-']

namespace Clause

def writtenBoost : Option Boost → List Char
  | none => []
  | some b => '^' :: b.numeral.text

def written (c : Clause) : List Char := c.occur.written ++ c.body.written ++ writtenBoost c.boost

def query (c : Clause) : Query := c.body.query (c.boost.map fun b => b.numeral.toFloat)

def queries (occur : Occur) (clauses : List Clause) : List Query :=
  (clauses.filter fun c => c.occur = occur).map query

def slot (make : List Query → Query) : List Query → Option Query
  | [] => none
  | qs => some (make qs)

def tree : List Clause → Query
  | [] => .nothing none
  | clauses =>
    let least := if queries .must clauses = [] then some 1 else none
    .boolean (slot (.conjunction · none) (queries .must clauses))
      (slot (.disjunction · least none) (queries .should clauses))
      (slot (.disjunction · none none) (queries .mustNot clauses)) none

end Clause

/-- The text holds the clauses one after another, with white space between any two of them. -/
inductive Joined : List Clause → List Char → Prop
  | nil : Joined [] []
  | one (c : Clause) : Joined [c] c.written
  | cons (c : Clause) {gap : List Char} {rest : List Clause} {text : List Char} (h : gap ≠ [])
      (blank : ∀ d ∈ gap, isBlank d = true) (more : Joined rest text) (nonempty : rest ≠ []) :
    Joined (c :: rest) (c.written ++ gap ++ text)

end SearchQuery.Grammar
