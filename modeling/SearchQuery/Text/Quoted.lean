import SearchQuery.Text.Property

/-!
# Quoted text

A text between double quotes in which quotes, backslashes and the characters that cannot be seen are
escaped.
-/

set_option autoImplicit false
namespace SearchQuery.Quoted
open Category

def hexDigits (n : Nat) : String := String.ofList (Nat.toDigits 16 n)

/-- Whether the character has a shape of its own; of the spaces only the common one counts. -/
def isVisible (c : Char) : Bool :=
  c == ' ' || !(other.contains c || separator.contains c)

def escapeChar (c : Char) : String :=
  if c = '\x00' then "\\0"
  else if c = '\t' then "\\t"
  else if c = '\n' then "\\n"
  else if c = '\r' then "\\r"
  else if c = '"' then "\\\""
  else if c = '\\' then "\\\\"
  else if isVisible c && !Property.graphemeExtend c then c.toString
  else "\\u\x7b" ++ hexDigits c.toNat ++ "\x7d"

end SearchQuery.Quoted

namespace SearchQuery

def quoted (text : String) : String :=
  "\"" ++ String.join (text.toList.map Quoted.escapeChar) ++ "\""

end SearchQuery
