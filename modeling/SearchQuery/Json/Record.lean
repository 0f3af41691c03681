import SearchQuery.Json.Writer
import SearchQuery.Text.Quoted

/-!
# Reading typed values

A typed reader takes a JSON value to a value of a domain type or says how the two do not fit.  A
record reader reads the members of an object: the members are checked in their order, so that the
first one that does not fit is reported, and what is missing is reported only after that.  Members
that the record does not name are never looked at.
-/

set_option autoImplicit false
namespace SearchQuery.Json

inductive Found where
  | null
  | boolean (value : Bool)
  | integer (n : Int)
  | real (x : Float)
  | string (text : String)
  | sequence
  | map

def found : Json → Found
  | .null => .null
  | .boolean b => .boolean b
  | .number (.integer n _) => .integer n
  | .number (.real x) => .real x
  | .string s => .string s
  | .array _ => .sequence
  | .object _ => .map

def Found.text : Found → String
  | .null => "null"
  | .boolean b => s!"boolean `{b}`"
  | .integer n => s!"integer `{n}`"
  | .real x => s!"floating point `{Decimal.documentText x}`"
  | .string s => "string " ++ quoted s
  | .sequence => "sequence"
  | .map => "map"

/-- How a value does not fit a type.  `ε` holds the reasons of the domain. -/
inductive Mismatch (ε : Type) where
  | invalidType (found : Found) (expected : String)
  | invalidValue (found : Found) (expected : String)
  | invalidLength (length : Nat) (expected : String)
  | missingField (name : String)
  | duplicateField (name : String)
  | unknownVariant (name : String) (known : List String)
  | noAlternative (type : String)
  | refused (reason : ε)

def oneOf (names : List String) : String :=
  let ticked := names.map fun n => s!"`{n}`"
  match ticked with
  | [a] => a
  | [a, b] => s!"{a} or {b}"
  | many => "one of " ++ ", ".intercalate many

def Mismatch.message {ε : Type} (reason : ε → String) : Mismatch ε → String
  | .invalidType found expected => s!"invalid type: {found.text}, expected {expected}"
  | .invalidValue found expected => s!"invalid value: {found.text}, expected {expected}"
  | .invalidLength length expected => s!"invalid length {length}, expected {expected}"
  | .missingField name => s!"missing field `{name}`"
  | .duplicateField name => s!"duplicate field `{name}`"
  | .unknownVariant name known => s!"unknown variant `{name}`, expected {oneOf known}"
  | .noAlternative type => s!"data did not match any variant of untagged enum {type}"
  | .refused e => reason e

abbrev Reader (ε α : Type) := Json → Except (Mismatch ε) α

section Readers
variable {ε α : Type}

def text : Reader ε String
  | .string s => .ok s
  | v => .error (.invalidType v.found "a string")

def flag : Reader ε Bool
  | .boolean b => .ok b
  | v => .error (.invalidType v.found "a boolean")

def real : Reader ε Float
  | .number n => .ok n.toFloat
  | v => .error (.invalidType v.found "f64")

def natural32 : Reader ε UInt32
  | .number (.integer n _) =>
    if 0 ≤ n ∧ n < 0x100000000 then .ok (UInt32.ofNat n.toNat)
    else .error (.invalidValue (.integer n) "u32")
  | v => .error (.invalidType v.found "u32")

/-- One of several names, written as a string or as an object with the name as its only key and null
as its value. -/
def choice (options : List (String × α)) : Reader ε α
  | .string s => named s
  | .object [(key, v)] => do
    let x ← named key
    match v with
    | .null => .ok x
    | v => .error (.invalidType v.found "unit")
  | .object _ => .error (.invalidValue .map "map with a single key")
  | v => .error (.invalidType v.found "string or map")
where
  named (name : String) : Except (Mismatch ε) α :=
    match options.lookup name with
    | some x => .ok x
    | none => .error (.unknownVariant name (options.map (·.1)))

def readEach (read : Reader ε α) : List Json → Except (Mismatch ε) (List α)
  | [] => .ok []
  | v :: rest => do
    let x ← read v
    let xs ← readEach read rest
    return x :: xs

def listOf (read : Reader ε α) : Reader ε (List α)
  | .array items => readEach read items
  | v => .error (.invalidType v.found "a sequence")

def nullable (read : Reader ε α) : Reader ε (Option α)
  | .null => .ok none
  | v => (read v).map some

end Readers

/-- The reader of a record: how each member that it names is checked, in the order of the record,
and how its value is made of the members. -/
structure Record (ε α : Type) where
  checks : List (String × (Json → Except (Mismatch ε) Unit))
  build : List (String × Json) → Except (Mismatch ε) α

namespace Record
variable {ε α β : Type}

def checked (read : Reader ε α) (v : Json) : Except (Mismatch ε) Unit := (read v).map fun _ => ()

def required (key : String) (read : Reader ε α) : Record ε α where
  checks := [(key, checked read)]
  build members := match lookup key members with
    | some v => read v
    | none => .error (.missingField key)

def defaulted (key : String) (read : Reader ε α) (default : α) : Record ε α where
  checks := [(key, checked read)]
  build members := match lookup key members with
    | some v => read v
    | none => .ok default

def optional (key : String) (read : Reader ε α) : Record ε (Option α) :=
  defaulted key (nullable read) none

protected def pure (x : α) : Record ε α := ⟨[], fun _ => .ok x⟩

protected def seq (f : Record ε (α → β)) (r : Record ε α) : Record ε β where
  checks := f.checks ++ r.checks
  build members := do
    let g ← f.build members
    let x ← r.build members
    return g x

instance : Applicative (Record ε) where
  pure := Record.pure
  seq f r := Record.seq f (r ())

def check (checks : List (String × (Json → Except (Mismatch ε) Unit))) (seen : List String) :
    List (String × Json) → Except (Mismatch ε) Unit
  | [] => .ok ()
  | (key, v) :: rest =>
    match checks.lookup key with
    | none => check checks seen rest
    | some test =>
      if seen.contains key then .error (.duplicateField key)
      else do
        test v
        check checks (key :: seen) rest

def readMembers (r : Record ε α) (members : List (String × Json)) : Except (Mismatch ε) α := do
  check r.checks [] members
  r.build members

def place (r : Record ε α) (key : String) : Nat := r.checks.findIdx fun c => c.1 == key

def readItems (r : Record ε α) (type : String) (items : List Json) : Except (Mismatch ε) α := do
  let keys := r.checks.map (·.1)
  let count := if keys.length = 1 then "1 element" else s!"{keys.length} elements"
  let members := keys.zip items
  check r.checks [] members
  match r.build members with
  | .error (.missingField key) => .error (.invalidLength (r.place key) s!"{type} with {count}")
  | result => result

/-- The reader of a record that may be written as an object or as an array of its members; `surplus`
says what was expected of an array that is too long. -/
def read (r : Record ε α) (type surplus : String) : Reader ε α
  | .object members => r.readMembers members
  | .array items => do
    let x ← r.readItems type items
    if r.checks.length < items.length then .error (.invalidLength items.length surplus)
    else .ok x
  | v => .error (.invalidType v.found type)

end Record

end SearchQuery.Json
