import SearchQuery.Pattern.Basic
import SearchQuery.Text.Age
import SearchQuery.Text.Breaks

/-!
# Properties in patterns

The characters that a property name or a pair of name and value stands for.  Names are compared
without case, blanks, hyphens, underscores and a leading `is`.
-/

set_option autoImplicit false
namespace SearchQuery.Pattern

def isFiller (c : Char) : Bool := c == ' ' || c == '_' || c == '-'

/-- A name in the form in which names are compared.  What is left of `isc` is the name of a property
and not of the category `c`. -/
def plainName (name : String) : String :=
  let plain (cs : List Char) : List Char :=
    ((cs.filter fun c => decide (c.toNat < 128) && !isFiller c).map Char.toLower)
  match name.toList with
  | i :: s :: rest =>
    if i.toLower = 'i' ∧ s.toLower = 's' then
      let rest := plain rest
      String.ofList (if rest = ['c'] then ['i', 's', 'c'] else rest)
    else String.ofList (plain (i :: s :: rest))
  | cs => String.ofList (plain cs)

def tableOf? {α : Type} (table : List (List String × α)) (name : String) : Option α :=
  (table.find? fun e => e.1.contains name).map (·.2)

/-- A category by its name.  No character of a text is a surrogate, so that category has no set. -/
def category? (name : String) : Option (Except Fault (Char → Bool)) :=
  if name = "any" then some (.ok fun _ => true)
  else if name = "ascii" then some (.ok fun c => decide (c.toNat < 128))
  else if name = "assigned" then some (.ok fun c => !Category.unassigned.contains c)
  else if name = "cs" ∨ name = "surrogate" then some (.error .propertyValueNotFound)
  else (tableOf? Category.named name).map fun set => .ok set.contains

def emptyScripts : List String := ["hrkt", "katakanaorhiragana", "zzzz", "unknown"]

def script? (name : String) : Option (Except Fault Script.Table) :=
  if emptyScripts.contains name then some (.error .propertyValueNotFound)
  else (Script.named? name).map .ok

def isProperty (name : String) : Bool :=
  (tableOf? Property.named name).isSome || Property.others.contains name

/-- Names that stand for a category although other properties have them as well. -/
def categoryNames : List String := ["cf", "sc", "lc"]

def namedSet (name : String) : Except Fault (Char → Bool) :=
  let name := plainName name
  if isProperty name && !(categoryNames.contains name) then
    match tableOf? Property.named name with
    | some accepts => .ok accepts
    | none => .error .propertyNotFound
  else
    match category? name, script? name with
    | some set, _ => set
    | none, some script => script.map fun s => s.own.contains
    | none, none => .error .propertyNotFound

def valuesOf? (name value : String) : Option (Option (Except Fault (Char → Bool))) :=
  let chosen (classes : List (List String × (Char → Bool))) := (tableOf? classes value).map .ok
  match name with
  | "gc" | "generalcategory" => some (category? value)
  | "sc" | "script" => some ((script? value).map fun r => r.map fun s => s.own.contains)
  | "scx" | "scriptextensions" => some ((script? value).map fun r => r.map fun s => s.used.contains)
  | "age" => some ((Age.upTo? value).map fun set => .ok set.contains)
  | "gcb" | "graphemeclusterbreak" => some (chosen GraphemeBreak.named)
  | "wb" | "wordbreak" => some (chosen WordBreak.named)
  | "sb" | "sentencebreak" => some (chosen SentenceBreak.named)
  | _ => none

def valuedSet (name value : String) : Except Fault (Char → Bool) :=
  let name := plainName name
  match valuesOf? name (plainName value) with
  | some set => set.getD (.error .propertyValueNotFound)
  | none => .error (if isProperty name then .propertyValueNotFound else .propertyNotFound)

def PropertyRef.set : PropertyRef → Except Fault (Char → Bool)
  | .named name => namedSet name
  | .valued name value => valuedSet name value

end SearchQuery.Pattern
