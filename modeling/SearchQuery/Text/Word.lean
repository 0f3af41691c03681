import SearchQuery.Text.Property

/-!
# Word characters

The two notions of a word character: alphanumeric characters, of which the analyzers make words, and
the wider class that patterns call a word character.
-/

set_option autoImplicit false
namespace SearchQuery

def isAlphabetic (c : Char) : Bool :=
  if c.toNat < 128 then c.isAlpha else Property.alphabetic c

def isNumeric (c : Char) : Bool :=
  if c.toNat < 128 then c.isDigit else Category.number.contains c

def isAlphanumeric (c : Char) : Bool := isAlphabetic c || isNumeric c

def isDecimalDigit (c : Char) : Bool :=
  if c.toNat < 128 then c.isDigit else Category.decimalNumber.contains c

def isWordChar (c : Char) : Bool :=
  if c.toNat < 128 then c.isAlphanum || c == '_'
  else Property.alphabetic c || Category.mark.contains c || Category.decimalNumber.contains c ||
    Category.connectorPunctuation.contains c || Property.joinControlTable.contains c

end SearchQuery
