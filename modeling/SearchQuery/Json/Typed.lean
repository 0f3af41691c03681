import SearchQuery.Json.Reader
import SearchQuery.Json.Record

/-!
# Typed values in a text

Where a value of a certain type is read straight from a text, a report names the place in the text,
and what comes first in the text is reported first.
-/

set_option autoImplicit false
namespace SearchQuery.Json

inductive TextFault where
  | malformed (fault : SyntaxFault)
  | mismatch (fault : Mismatch Empty)

structure TextError where
  fault : TextFault
  position : Option Position

def TextFault.message : TextFault → String
  | malformed f => f.message
  | mismatch m => m.message Empty.elim

def TextError.message (e : TextError) : String :=
  e.fault.message ++ match e.position with
    | some p => p.suffix
    | none => ""

def TextError.unplaced (m : Mismatch Empty) : TextError := ⟨.mismatch m, none⟩

def TextError.ofSyntax (e : SyntaxError) : TextError := ⟨.malformed e.fault, some e.position⟩

namespace Cursor

def untyped {α : Type} (step : Except SyntaxError α) : Except TextError α :=
  step.mapError TextError.ofSyntax

def mismatch {α : Type} (c : Cursor) (m : Mismatch Empty) : Except TextError α :=
  .error ⟨.mismatch m, some c.position⟩

/-- Reports a value of another type than expected: behind it if it is a scalar, else before it. -/
def unexpected {α : Type} (expected : String) (c : Cursor) : Except TextError α := do
  let found (v : Json) (c : Cursor) : Except TextError α :=
    c.mismatch (.invalidType v.found expected)
  match c.rest with
  | [] => untyped (c.fail .endInValue)
  | b :: _ =>
    if b = 91 then found (.array []) c
    else if b = 123 then found (.object []) c
    else
      let (v, c) ← untyped (c.value 1)
      found v c

def toValue (c : Cursor) : Except TextError Cursor :=
  let c := c.skipSpace
  if c.rest.isEmpty then untyped (c.fail .endInValue) else .ok c

def readFlag (c : Cursor) : Except TextError (Bool × Cursor) := do
  let c ← c.toValue
  if c.rest.head? = some 116 ∨ c.rest.head? = some 102 then
    match ← untyped (c.value 1) with
    | (.boolean b, c) => return (b, c)
    | (_, c) => c.unexpected "a boolean"
  else c.unexpected "a boolean"

def readText (expected : String) (c : Cursor) : Except TextError (String × Cursor) := do
  let c ← c.toValue
  if c.rest.head? = some 34 then untyped c.string else c.unexpected expected

/-- A member of a record that is read from a text: its key and how its value changes what has been
read so far. -/
abbrev Member (σ : Type) := String × (σ → Cursor → Except TextError (σ × Cursor))

/-- The place at which a fault of a whole object is reported: before what follows in it, or behind
the object if nothing does. -/
def leaveObject (c : Cursor) : Cursor :=
  let c := c.skipSpace
  if c.rest.head? = some 125 then c.next else c

/-- Reads the members of an object up to its end.  A key of the record must not come twice; members
under other keys are passed to `other`. -/
def readRecord {σ : Type} (known : List (Member σ)) (other : String → Json → σ → σ) (depth : Nat) :
    (fuel : Nat) → (first : Bool) → (seen : List String) → σ → Cursor →
      Except TextError (σ × Cursor)
  | 0, _, _, _, c => untyped (c.fail .expectedValue)
  | fuel + 1, first, seen, state, c => do
    let (more, c) ← untyped (c.hasMember first)
    if more then
      let (key, c) ← untyped c.string
      match known.lookup key with
      | some step =>
        if seen.contains key then c.leaveObject.mismatch (.duplicateField key)
        else
          let ((), c) ← untyped c.colon
          let (state, c) ← step state c
          readRecord known other depth fuel false (key :: seen) state c
      | none =>
        let ((), c) ← untyped c.colon
        let (v, c) ← untyped (c.value depth)
        readRecord known other depth fuel false seen (other key v state) c
    else return (state, c.next)

def readObject {σ : Type} (expected : String) (known : List (Member σ))
    (other : String → Json → σ → σ) (start : σ) (c : Cursor) : Except TextError (σ × Cursor) := do
  let c ← c.toValue
  if c.rest.head? = some 123 then
    readRecord known other (maxDepth - 1) (c.rest.length + 1) true [] start c.next
  else c.unexpected expected

def complete {α : Type} (step : Except TextError (α × Cursor)) : Except TextError α := do
  let (x, c) ← step
  untyped c.finish
  return x

end Cursor

end SearchQuery.Json
