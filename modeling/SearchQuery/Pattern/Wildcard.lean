import SearchQuery.Pattern.Meaning

/-!
# Wildcards

In a wildcard pattern an asterisk stands for any run of characters on one line and a question mark
for one of them; a backslash takes the meaning of the next character away.
-/

set_option autoImplicit false
namespace SearchQuery.Wildcard

/-- The regular expression that a wildcard pattern stands for. -/
def toPattern : List Char → List Char
  | [] => []
  | '*' :: rest => '.' :: '*' :: toPattern rest
  | '?' :: rest => '.' :: toPattern rest
  | ['\\'] => ['\\', '\\']
  | '\\' :: c :: rest => Pattern.escapeChar c ++ toPattern rest
  | c :: rest => Pattern.escapeChar c ++ toPattern rest

def regex (wildcard : String) : Except Pattern.Fault Regex :=
  Regex.ofWhole (String.ofList (toPattern wildcard.toList))

end SearchQuery.Wildcard
