import SearchQuery.Json.Basic
import SearchQuery.Decimal.Reading

/-!
# Reading JSON

A document is read from its bytes, which need not be UTF-8 outside strings.  Every fault carries the
line and the column of the place where it was found.  Arrays and objects nest to a depth of 127.
-/

set_option autoImplicit false
namespace SearchQuery.Json

inductive SyntaxFault where
  | endInValue | endInList | endInObject | endInString
  | expectedColon | expectedListEnd | expectedObjectEnd | expectedWord | expectedValue
  | invalidEscape | invalidNumber | outOfRange | notUtf8 | controlCharacter
  | keyNotString | loneSurrogate | unfinishedEscape
  | trailingComma | trailingCharacters | tooDeep

def SyntaxFault.message : SyntaxFault → String
  | endInValue => "EOF while parsing a value"
  | endInList => "EOF while parsing a list"
  | endInObject => "EOF while parsing an object"
  | endInString => "EOF while parsing a string"
  | expectedColon => "expected `:`"
  | expectedListEnd => "expected `,` or `]`"
  | expectedObjectEnd => "expected `,` or `\x7d`"
  | expectedWord => "expected ident"
  | expectedValue => "expected value"
  | invalidEscape => "invalid escape"
  | invalidNumber => "invalid number"
  | outOfRange => "number out of range"
  | notUtf8 => "invalid unicode code point"
  | controlCharacter => "control character (\\u0000-\\u001F) found while parsing a string"
  | keyNotString => "key must be a string"
  | loneSurrogate => "lone leading surrogate in hex escape"
  | unfinishedEscape => "unexpected end of hex escape"
  | trailingComma => "trailing comma"
  | trailingCharacters => "trailing characters"
  | tooDeep => "recursion limit exceeded"

structure Position where
  line : Nat
  column : Nat

def Position.advance (p : Position) (b : UInt8) : Position :=
  if b = 10 then ⟨p.line + 1, 0⟩ else ⟨p.line, p.column + 1⟩

def Position.suffix (p : Position) : String := s!" at line {p.line} column {p.column}"

structure Located (φ : Type) where
  fault : φ
  position : Position

abbrev SyntaxError := Located SyntaxFault

def SyntaxError.message (e : SyntaxError) : String := e.fault.message ++ e.position.suffix

structure Cursor where
  rest : List UInt8
  position : Position

abbrev Step (α : Type) := Except SyntaxError (α × Cursor)

namespace Cursor

def ofBytes (bytes : List UInt8) : Cursor := ⟨bytes, ⟨1, 0⟩⟩

def next (c : Cursor) : Cursor :=
  match c.rest with
  | [] => c
  | b :: rest => ⟨rest, c.position.advance b⟩

def fail {α : Type} (c : Cursor) (fault : SyntaxFault) : Except SyntaxError α :=
  .error ⟨fault, c.position⟩

def failAtNext {α : Type} (c : Cursor) (fault : SyntaxFault) : Except SyntaxError α :=
  c.next.fail fault

def isSpace (b : UInt8) : Bool := b == 32 || b == 10 || b == 9 || b == 13

def skipFrom (p : Position) : List UInt8 → Cursor
  | [] => ⟨[], p⟩
  | b :: rest => if isSpace b then skipFrom (p.advance b) rest else ⟨b :: rest, p⟩

def skipSpace (c : Cursor) : Cursor := skipFrom c.position c.rest

def drop : Nat → Cursor → Cursor
  | 0, c => c
  | n + 1, c => drop n c.next

def word (c : Cursor) : List UInt8 → Step Unit
  | [] => .ok ((), c)
  | expected :: more =>
    match c.rest with
    | [] => c.fail .endInValue
    | b :: _ => if b = expected then c.next.word more else c.failAtNext .expectedWord

end Cursor

def isDigitByte (b : UInt8) : Bool := decide (48 ≤ b) && decide (b ≤ 57)

def Cursor.digits (c : Cursor) : List Nat :=
  (c.rest.takeWhile isDigitByte).map fun b => b.toNat - 48

def Cursor.skipDigits (c : Cursor) : Cursor := c.drop (c.rest.takeWhile isDigitByte).length

/-- Appends digits to a significand as long as it stays within 64 bits, and counts the digits that
were left out, which are all those from the first that does not fit. -/
def gather (significand : Nat) (digits : List Nat) : Nat × Nat :=
  digits.foldl (fun (n, dropped) d =>
    if dropped = 0 ∧ 10 * n + d < 0x10000000000000000 then (10 * n + d, 0) else (n, dropped + 1))
    (significand, 0)

/-- Multiplies by a power of ten, in steps of at most 308 places downwards.  `none` is a number out
of range. -/
def scale : Nat → Float → Int → Option Float
  | 0, x, _ => some x
  | steps + 1, x, e =>
    if e.natAbs ≤ 308 then
      let power := Decimal.nearest 1 e.natAbs
      if 0 ≤ e then (if (x * power).isInf then none else some (x * power)) else some (x / power)
    else if x == 0.0 then some x
    else if 0 ≤ e then none
    else scale steps (x / Decimal.nearest 1 308) (e + 308)

def finishReal (negative : Bool) (significand : Nat) (exponent : Int) (c : Cursor) : Step Number :=
  match scale 8 (Float.ofNat significand) exponent with
  | none => c.fail .outOfRange
  | some x => .ok (.real (if negative then -x else x), c)

/-- The number of digits after which an exponent no longer fits into 32 bits. -/
def exponentOverflow : List Nat → Nat → Nat → Option Nat
  | [], _, _ => none
  | d :: rest, n, count =>
    if 0x80000000 ≤ 10 * n + d then some (count + 1)
    else exponentOverflow rest (10 * n + d) (count + 1)

def readExponent (negative : Bool) (significand : Nat) (shift : Int) (c : Cursor) : Step Number :=
  let c := c.next
  let (down, c) := match c.rest with
    | 43 :: _ => (false, c.next)
    | 45 :: _ => (true, c.next)
    | _ => (false, c)
  match c.rest with
  | [] => c.fail .endInValue
  | b :: _ =>
    if isDigitByte b then
      match exponentOverflow c.digits 0 0 with
      | some count =>
        if significand ≠ 0 ∧ !down then (c.drop count).fail .outOfRange
        else .ok (.real (if negative then -0.0 else 0.0), c.skipDigits)
      | none =>
        let e := c.digits.foldl (fun n d => 10 * n + d) 0
        finishReal negative significand (if down then shift - (e : Nat) else shift + (e : Nat))
          c.skipDigits
    else c.failAtNext .invalidNumber

def readRealEnd (negative : Bool) (significand : Nat) (shift : Int) (c : Cursor) : Step Number :=
  match c.rest with
  | 69 :: _ => readExponent negative significand shift c
  | 101 :: _ => readExponent negative significand shift c
  | _ => finishReal negative significand shift c

def readPlaces (negative : Bool) (significand : Nat) (shift : Int) (c : Cursor) : Step Number :=
  let c := c.next
  if c.digits.isEmpty then
    match c.rest with
    | [] => c.fail .endInValue
    | _ :: _ => c.failAtNext .invalidNumber
  else
    let (n, dropped) := gather significand c.digits
    readRealEnd negative n (shift - (c.digits.length - dropped : Nat)) c.skipDigits

def wholeNumber (negative : Bool) (significand : Nat) : Number :=
  if negative then
    if h : 0 < significand ∧ significand ≤ 0x8000000000000000 then
      .integer (-(significand : Int)) (by omega)
    else .real (-Float.ofNat significand)
  else if h : significand < 0x10000000000000000 then .integer significand (by omega)
  else .real (Float.ofNat significand)

def readNumber (negative : Bool) (c : Cursor) : Step Number :=
  match c.rest with
  | [] => c.fail .endInValue
  | b :: more =>
    if b = 48 ∧ isDigitByte (more.headD 0) then c.next.failAtNext .invalidNumber
    else if isDigitByte b then
      let (n, dropped) := gather 0 c.digits
      let c := c.skipDigits
      match c.rest with
      | 46 :: _ => readPlaces negative n dropped c
      | 69 :: _ => readExponent negative n dropped c
      | 101 :: _ => readExponent negative n dropped c
      | _ =>
        if dropped = 0 then .ok (wholeNumber negative n, c) else finishReal negative n dropped c
    else c.failAtNext .invalidNumber

def hexByte? (b : UInt8) : Option Nat :=
  let n := b.toNat
  if 48 ≤ n ∧ n ≤ 57 then some (n - 48)
  else if 97 ≤ n ∧ n ≤ 102 then some (n - 87)
  else if 65 ≤ n ∧ n ≤ 70 then some (n - 55)
  else none

def hexQuad? (a b c d : UInt8) : Option Nat := do
  return 4096 * (← hexByte? a) + 256 * (← hexByte? b) + 16 * (← hexByte? c) + (← hexByte? d)

def simpleEscape? (b : UInt8) : Option UInt8 :=
  if b = 34 ∨ b = 92 ∨ b = 47 then some b
  else if b = 98 then some 8
  else if b = 102 then some 12
  else if b = 110 then some 10
  else if b = 114 then some 13
  else if b = 116 then some 9
  else none

def utf8Bytes (n : Nat) : List UInt8 := (String.singleton (Char.ofNat n)).toByteArray.data.toList

def finishString (reversed : List UInt8) (c : Cursor) : Step String :=
  match String.fromUTF8? ⟨reversed.reverse.toArray⟩ with
  | some text => .ok (text, c.next)
  | none => c.fail .notUtf8

/-- Reads a string to its closing quote; `done` holds its bytes so far in reverse.  A leading
surrogate has to be followed by the escape of a trailing one. -/
def readString (done : List UInt8) (p : Position) : List UInt8 → Step String
  | [] => .error ⟨.endInString, p⟩
  | 92 :: rest =>
    let p := p.advance 92
    match rest with
    | [] => .error ⟨.endInString, p⟩
    | 117 :: hex =>
      let p := p.advance 117
      match hex with
      | a :: b :: c :: d :: tail =>
        let q := ((p.advance a).advance b).advance c |>.advance d
        match hexQuad? a b c d with
        | none => .error ⟨.invalidEscape, q⟩
        | some n =>
          if 0xdc00 ≤ n ∧ n ≤ 0xdfff then .error ⟨.loneSurrogate, q⟩
          else if n < 0xd800 ∨ 0xdbff < n then
            readString ((utf8Bytes n).reverse ++ done) q tail
          else
            match tail with
            | [] => .error ⟨.endInString, q⟩
            | slash :: tail =>
              let q := q.advance slash
              if slash ≠ 92 then .error ⟨.unfinishedEscape, q⟩
              else
                match tail with
                | [] => .error ⟨.endInString, q⟩
                | u :: tail =>
                  let q := q.advance u
                  if u ≠ 117 then .error ⟨.unfinishedEscape, q⟩
                  else
                    match tail with
                    | a :: b :: c :: d :: tail =>
                      let q := ((q.advance a).advance b).advance c |>.advance d
                      match hexQuad? a b c d with
                      | none => .error ⟨.invalidEscape, q⟩
                      | some m =>
                        if m < 0xdc00 ∨ 0xdfff < m then .error ⟨.loneSurrogate, q⟩
                        else
                          let code := 0x10000 + 1024 * (n - 0xd800) + (m - 0xdc00)
                          readString ((utf8Bytes code).reverse ++ done) q tail
                    | short => .error ⟨.endInString, short.foldl Position.advance q⟩
      | short => .error ⟨.endInString, short.foldl Position.advance p⟩
    | e :: rest =>
      let p := p.advance e
      match simpleEscape? e with
      | some b => readString (b :: done) p rest
      | none => .error ⟨.invalidEscape, p⟩
  | b :: rest =>
    if b = 34 then finishString done ⟨b :: rest, p⟩
    else if b < 32 then .error ⟨.controlCharacter, p.advance b⟩
    else readString (b :: done) (p.advance b) rest

def Cursor.string (c : Cursor) : Step String := readString [] c.next.position c.next.rest

def Cursor.hasItem (c : Cursor) (first : Bool) : Step Bool :=
  let c := c.skipSpace
  match c.rest with
  | [] => c.fail .endInList
  | b :: _ =>
    if b = 93 then .ok (false, c)
    else if first then .ok (true, c)
    else if b = 44 then
      let c := c.next.skipSpace
      match c.rest with
      | [] => c.fail .endInValue
      | d :: _ => if d = 93 then c.failAtNext .trailingComma else .ok (true, c)
    else c.failAtNext .expectedListEnd

def Cursor.hasMember (c : Cursor) (first : Bool) : Step Bool :=
  let c := c.skipSpace
  match c.rest with
  | [] => c.fail .endInObject
  | b :: _ =>
    if b = 125 then .ok (false, c)
    else if first then (if b = 34 then .ok (true, c) else c.failAtNext .keyNotString)
    else if b = 44 then
      let c := c.next.skipSpace
      match c.rest with
      | [] => c.fail .endInValue
      | d :: _ =>
        if d = 34 then .ok (true, c)
        else if d = 125 then c.failAtNext .trailingComma
        else c.failAtNext .keyNotString
    else c.failAtNext .expectedObjectEnd

def Cursor.colon (c : Cursor) : Step Unit :=
  let c := c.skipSpace
  match c.rest with
  | [] => c.fail .endInObject
  | b :: _ => if b = 58 then .ok ((), c.next) else c.failAtNext .expectedColon

mutual

/-- Reads a value; `depth` counts down with every array or object entered, and `fuel` with every
step of the recursion. -/
def readValue : (fuel depth : Nat) → Cursor → Except SyntaxError (Json × Cursor)
  | 0, _, c => c.fail .expectedValue
  | fuel + 1, depth, c => do
    let c := c.skipSpace
    match c.rest with
    | [] => c.fail .endInValue
    | b :: _ =>
      if b = 110 then
        let ((), c) ← c.next.word [117, 108, 108]
        return (.null, c)
      else if b = 116 then
        let ((), c) ← c.next.word [114, 117, 101]
        return (.boolean true, c)
      else if b = 102 then
        let ((), c) ← c.next.word [97, 108, 115, 101]
        return (.boolean false, c)
      else if b = 45 then
        let (n, c) ← readNumber true c.next
        return (.number n, c)
      else if isDigitByte b then
        let (n, c) ← readNumber false c
        return (.number n, c)
      else if b = 34 then
        let (s, c) ← c.string
        return (.string s, c)
      else if b = 91 then
        if depth ≤ 1 then c.failAtNext .tooDeep
        else
          let (items, c) ← readItems fuel (depth - 1) true c.next
          return (.array items, c)
      else if b = 123 then
        if depth ≤ 1 then c.failAtNext .tooDeep
        else
          let (members, c) ← readMembers fuel (depth - 1) true c.next
          return (.object members, c)
      else c.failAtNext .expectedValue

def readItems :
    (fuel depth : Nat) → (first : Bool) → Cursor → Except SyntaxError (List Json × Cursor)
  | 0, _, _, c => c.fail .expectedValue
  | fuel + 1, depth, first, c => do
    let (more, c) ← c.hasItem first
    if more then
      let (v, c) ← readValue fuel depth c
      let (rest, c) ← readItems fuel depth false c
      return (v :: rest, c)
    else return ([], c.next)

def readMembers : (fuel depth : Nat) → (first : Bool) → Cursor →
    Except SyntaxError (List (String × Json) × Cursor)
  | 0, _, _, c => c.fail .expectedValue
  | fuel + 1, depth, first, c => do
    let (more, c) ← c.hasMember first
    if more then
      let (key, c) ← c.string
      let ((), c) ← c.colon
      let (v, c) ← readValue fuel depth c
      let (rest, c) ← readMembers fuel depth false c
      return ((key, v) :: rest, c)
    else return ([], c.next)

end

def maxDepth : Nat := 128

/-- Reads one value; every step of the recursion but the last takes a byte, so twice their number is
fuel enough. -/
def Cursor.value (c : Cursor) (depth : Nat) : Step Json :=
  readValue (2 * c.rest.length + 2) depth c

def Cursor.finish (c : Cursor) : Except SyntaxError Unit :=
  let c := c.skipSpace
  match c.rest with
  | [] => .ok ()
  | _ :: _ => c.failAtNext .trailingCharacters

def readRaw (bytes : List UInt8) : Except SyntaxError Json := do
  let (v, c) ← (Cursor.ofBytes bytes).value maxDepth
  c.finish
  return v

/-- Reads a document; the members of its objects are sorted, and of several with one key the last
counts. -/
def read (bytes : List UInt8) : Except SyntaxError Json := return (← readRaw bytes).normalize

end SearchQuery.Json
