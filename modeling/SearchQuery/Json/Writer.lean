import SearchQuery.Json.Basic
import SearchQuery.Decimal.Layout

/-!
# Writing JSON

The compact text of a value, and the text that gives every item and member a line of its own,
indented by two blanks a level.
-/

set_option autoImplicit false
namespace SearchQuery.Json

def hexPair (n : Nat) : List Char := [Nat.digitChar (n / 16), Nat.digitChar (n % 16)]

def writeChar (c : Char) : List Char :=
  if c = '"' then ['\\', '"']
  else if c = '\\' then ['\\', '\\']
  else if c = '\n' then ['\\', 'n']
  else if c = '\r' then ['\\', 'r']
  else if c = '\t' then ['\\', 't']
  else if c = '\x08' then ['\\', 'b']
  else if c = '\x0c' then ['\\', 'f']
  else if c.toNat < 32 then '\\' :: 'u' :: '0' :: '0' :: hexPair c.toNat
  else [c]

def writeString (text : String) : String :=
  String.ofList ('"' :: text.toList.flatMap writeChar ++ ['"'])

def Number.write : Number → String
  | .integer n _ => toString n
  | .real x => Decimal.documentText x

mutual

def write : Json → String
  | .null => "null"
  | .boolean b => if b then "true" else "false"
  | .number n => n.write
  | .string s => writeString s
  | .array items => "[" ++ writeItems items ++ "]"
  | .object members => "\x7b" ++ writeMembers members ++ "\x7d"

def writeItems : List Json → String
  | [] => ""
  | [v] => v.write
  | v :: rest => v.write ++ "," ++ writeItems rest

def writeMembers : List (String × Json) → String
  | [] => ""
  | [(k, v)] => writeString k ++ ":" ++ v.write
  | (k, v) :: rest => writeString k ++ ":" ++ v.write ++ "," ++ writeMembers rest

end

def lineStart (level : Nat) : String := "\n" ++ String.ofList (List.replicate (2 * level) ' ')

mutual

def writeIndented (level : Nat) : Json → String
  | .array [] => "[]"
  | .array items => "[" ++ indentItems (level + 1) items ++ lineStart level ++ "]"
  | .object [] => "\x7b\x7d"
  | .object members => "\x7b" ++ indentMembers (level + 1) members ++ lineStart level ++ "\x7d"
  | v => v.write

def indentItems (level : Nat) : List Json → String
  | [] => ""
  | [v] => lineStart level ++ writeIndented level v
  | v :: rest => lineStart level ++ writeIndented level v ++ "," ++ indentItems level rest

def indentMembers (level : Nat) : List (String × Json) → String
  | [] => ""
  | [(k, v)] => lineStart level ++ writeString k ++ ": " ++ writeIndented level v
  | (k, v) :: rest =>
    lineStart level ++ writeString k ++ ": " ++ writeIndented level v ++ "," ++
      indentMembers level rest

end

def writePretty (v : Json) : String := writeIndented 0 v

end SearchQuery.Json
