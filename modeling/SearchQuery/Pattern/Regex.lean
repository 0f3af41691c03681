/-!
# Regular expressions

What a pattern means: classes of characters and conditions on places, combined.  A match is found by
following all places of the text at once, so that every expression is matched in a time bounded by
its size and the text's.
-/

set_option autoImplicit false
namespace SearchQuery

/-- An expression over the characters of a text.  `place` is a condition on the character before and
the character behind a place. -/
inductive Regex where
  | one (accepts : Char → Bool)
  | place (holds : Option Char → Option Char → Bool)
  | sequence (parts : List Regex)
  | choice (branches : List Regex)
  | repetition (body : Regex) (min : Nat) (max : Option Nat)

namespace Regex

abbrev Places := List Nat

def merge : Places → Places → Places
  | [], b => b
  | a, [] => a
  | i :: a, j :: b =>
    if i < j then i :: merge a (j :: b)
    else if j < i then j :: merge (i :: a) b
    else i :: merge a b
termination_by a b => a.length + b.length

def iterate (step : Places → Places) : Nat → Places → Places
  | 0, places => places
  | n + 1, places =>
    let next := step places
    if next = places then places else iterate step n next

def reach (step : Places → Places) : Nat → Places → Places
  | 0, places => places
  | n + 1, places =>
    let more := merge places (step places)
    if more = places then places else reach step n more

def before (text : Array Char) : Nat → Option Char
  | 0 => none
  | i + 1 => text[i]?

mutual

/-- Where matches that begin at the given places end.  Beyond as many steps as the text has places,
repetition leads nowhere new. -/
def ends (text : Array Char) : Regex → Places → Places
  | one accepts => fun places =>
    (places.filter fun i => text[i]?.any accepts).map (· + 1)
  | place holds => fun places =>
    places.filter fun i => holds (before text i) text[i]?
  | sequence parts => endsOfAll text parts
  | choice branches => endsOfAny text branches
  | repetition body min max => fun places =>
    let limit := text.size + 1
    let least := iterate (ends text body) (Nat.min min limit) places
    let further := match max with
      | none => limit
      | some max => Nat.min (max - min) limit
    reach (ends text body) further least

def endsOfAll (text : Array Char) : List Regex → Places → Places
  | [] => fun places => places
  | r :: rest => fun places => endsOfAll text rest (ends text r places)

def endsOfAny (text : Array Char) : List Regex → Places → Places
  | [] => fun _ => []
  | r :: rest => fun places => merge (ends text r places) (endsOfAny text rest places)

end

def isMatch (r : Regex) (text : String) : Bool :=
  let cs := text.toList.toArray
  !(r.ends cs (List.range (cs.size + 1))).isEmpty

end Regex

end SearchQuery
