import SearchQuery.Calendar.Layout
import SearchQuery.Decimal.Reading

/-!
# Reading dates

A text is read item by item after a layout, and denotes the instant that its parts make.  Without a
layout a text is read as a complete instant with an offset, or after one of three layouts.
-/

set_option autoImplicit false
namespace SearchQuery.Calendar

open Decimal (isDigit digitsValue)

abbrev Chars := List Char

def skipBlanks (cs : Chars) : Chars := cs.dropWhile isBlank

def takeDigits? (width : Option Nat) (cs : Chars) : Option (Chars × Chars) :=
  let digits := match width with
    | none => cs.takeWhile isDigit
    | some n => (cs.take n).takeWhile isDigit
  if digits.isEmpty then none else some (digits, cs.drop digits.length)

def takeNumber? (width : Option Nat) (cs : Chars) : Option (Int × Chars) := do
  let (digits, rest) ← takeDigits? width cs
  let n := digitsValue digits
  if n < 0x8000000000000000 then some ((n : Int), rest) else none

def takeExactly? (width : Nat) (cs : Chars) : Option (Int × Chars) := do
  let (digits, rest) ← takeDigits? (some width) cs
  if digits.length = width then some ((digitsValue digits : Int), rest) else none

def takeChar? (c : Char) : Chars → Option Chars
  | d :: r => if d = c then some r else none
  | [] => none

def takeText? (text cs : Chars) : Option Chars :=
  if text.isPrefixOf cs then some (cs.drop text.length) else none

/-- Behind a sign a number may have any width. -/
def takeSigned? (width : Option Nat) : Chars → Option (Int × Chars)
  | '-' :: r => (takeNumber? none r).map fun (n, rest) => (-n, rest)
  | '+' :: r => takeNumber? none r
  | cs => takeNumber? width cs

def within? (low high : Int) (n : Int) : Option Int := if low ≤ n ∧ n ≤ high then some n else none

def Part.value? (n : Int) : Part → Option Int
  | .year => within? (-0x80000000) 0x7fffffff n
  | .isoYear => within? (-0x80000000) 0x7fffffff n
  | .quarter => within? 1 4 n
  | .month => within? 1 12 n
  | .day => within? 1 31 n
  | .dayOfYear => within? 1 366 n
  | .weekFromSunday => within? 0 53 n
  | .weekFromMonday => within? 0 53 n
  | .isoWeek => within? 1 53 n
  | .minute => within? 0 59 n
  | .second => within? 0 60 n
  | _ => some n

def Quantity.put? (n : Int) (f : Fields) : Quantity → Option Fields
  | .part p => do f.put? p (← p.value? n)
  | .dayFromMonday => do f.put? .weekday (← within? 0 6 (n - 1))
  | .dayFromSunday => do
    let day ← within? 0 6 n
    f.put? .weekday ((day + 6) % 7)
  | .hour => do f.putHour? (← within? 0 23 n)
  | .hourOfHalf => do
    let hour ← within? 1 12 n
    f.put? .hourOfHalf (hour % 12)

def monthNames : List (String × String) := [
  ("jan", "uary"), ("feb", "ruary"), ("mar", "ch"), ("apr", "il"), ("may", ""), ("jun", "e"),
  ("jul", "y"), ("aug", "ust"), ("sep", "tember"), ("oct", "ober"), ("nov", "ember"),
  ("dec", "ember")]

def weekdayNames : List (String × String) := [
  ("mon", "day"), ("tue", "sday"), ("wed", "nesday"), ("thu", "rsday"), ("fri", "day"),
  ("sat", "urday"), ("sun", "day")]

def takeWord? (word : String) (cs : Chars) : Option Chars :=
  let n := word.length
  if String.ofList ((cs.take n).map Char.toLower) = word then some (cs.drop n) else none

/-- The place of the name that a text begins with, by its first three letters; if `long`, the rest
of the name is taken as well where it stands. -/
def takeName? (names : List (String × String)) (long : Bool) (cs : Chars) : Option (Nat × Chars) :=
  match names with
  | [] => none
  | (start, tail) :: others =>
    match takeWord? start cs with
    | some rest => some (0, if long then (takeWord? tail rest).getD rest else rest)
    | none => (takeName? others long cs).map fun (i, rest) => (i + 1, rest)

def takeFraction? (digits : Option Nat) (cs : Chars) : Option (Int × Chars) :=
  match digits with
  | some n => (takeExactly? n cs).map fun (v, rest) => (v * Nat.pow 10 (9 - n), rest)
  | none => do
    let (ds, rest) ← takeDigits? (some 9) cs
    some ((digitsValue ds * Nat.pow 10 (9 - ds.length) : Nat), rest.dropWhile isDigit)

def takeSign? : Chars → Option (Bool × Chars)
  | '+' :: r => some (false, r)
  | '-' :: r => some (true, r)
  | '−' :: r => some (true, r)
  | _ => none

def takeOffsetMinutes? (optional : Bool) (cs : Chars) : Option (Int × Chars) :=
  match cs with
  | [] => if optional then some (0, []) else none
  | cs => do
    let (minutes, rest) ← takeExactly? 2 cs
    some ((← within? 0 59 minutes), rest)

/-- The seconds of an offset; `separate?` takes what stands between its hours and minutes. -/
def takeOffset? (zulu optional : Bool) (separate? : Chars → Option Chars) (cs : Chars) :
    Option (Int × Chars) :=
  let signed : Option (Int × Chars) := do
    let (negative, rest) ← takeSign? cs
    let (hours, rest) ← takeExactly? 2 rest
    let (minutes, rest) ← takeOffsetMinutes? optional (← separate? rest)
    let seconds := 3600 * hours + 60 * minutes
    some (if negative then -seconds else seconds, rest)
  match cs with
  | c :: rest => if zulu && c.toLower == 'z' then some (0, rest) else signed
  | [] => none

def skipSeparators? (cs : Chars) : Option Chars :=
  some (cs.dropWhile fun c => c == ':' || isBlank c)

def putNext (part : Part) (f : Fields) (taken : Option (Int × Chars)) :
    Option (Fields × Chars) := do
  let (v, rest) ← taken
  some (← f.put? part v, rest)

def Item.readNumber (quantity : Quantity) (width : Option Nat) (signed : Bool) (f : Fields)
    (cs : Chars) : Option (Fields × Chars) := do
  let start := skipBlanks cs
  let (n, rest) ← if signed then takeSigned? width start else takeNumber? width start
  some (← quantity.put? n f, rest)

def takeTimeMark? : Chars → Option Chars
  | c :: r => if c = 'T' ∨ c = 't' ∨ c = ' ' then some r else none
  | [] => none

def looseDate : List Item := [.year, .blank, .char '-', .month, .blank, .char '-', .day]

def looseTime : List Item := [
  .hour, .blank, .char ':', .minute, .blank, .char ':', .second, .fraction none, .blank]

def Item.readSimple (f : Fields) (cs : Chars) : Item → Option (Fields × Chars)
  | .literal text => (takeText? text cs).map fun rest => (f, rest)
  | .blank => some (f, skipBlanks cs)
  | .number quantity width signed => readNumber quantity width signed f cs
  | .monthName long =>
    putNext .month f ((takeName? monthNames long cs).map fun (i, rest) => ((i : Int) + 1, rest))
  | .weekdayName long =>
    putNext .weekday f ((takeName? weekdayNames long cs).map fun (i, rest) => ((i : Int), rest))
  | .half =>
    putNext .half f <|
      (takeWord? "am" cs).map (fun rest => (0, rest)) <|>
      (takeWord? "pm" cs).map fun rest => (1, rest)
  | .fraction digits =>
    match cs with
    | '.' :: rest => putNext .nanosecond f (takeFraction? digits rest)
    | cs => some (f, cs)
  | .fractionDigits digits => putNext .nanosecond f (takeFraction? (some digits) cs)
  | .zoneName => some (f, cs.dropWhile fun c => !isBlank c)
  | .offset permissive =>
    putNext .offset f (takeOffset? permissive permissive skipSeparators? (skipBlanks cs))
  | .complete => none

def readAll (read : Fields → Chars → Item → Option (Fields × Chars)) :
    List Item → Fields → Chars → Option (Fields × Chars)
  | [], f, cs => some (f, cs)
  | item :: items, f, cs => do
    let (f, rest) ← read f cs item
    readAll read items f rest

def readComplete (f : Fields) (cs : Chars) : Option (Fields × Chars) := do
  let (f, rest) ← readAll Item.readSimple looseDate f cs
  let (f, rest) ← readAll Item.readSimple looseTime f (← takeTimeMark? rest)
  let rest := skipBlanks rest
  match takeWord? "utc" rest with
  | some rest => some (← f.put? .offset 0, rest)
  | none => putNext .offset f (takeOffset? true false skipSeparators? rest)

def Item.read (f : Fields) (cs : Chars) : Item → Option (Fields × Chars)
  | .complete => readComplete f cs
  | item => item.readSimple f cs

/-- The instant of a text in a layout, which has to take up the whole text. -/
def instantIn? (layout text : String) : Option Instant := do
  let items ← Layout.items? layout.toList
  let (f, rest) ← readAll Item.read items .none text.toList
  if rest.isEmpty then f.instant? else none

def takeFixed? (part : Quantity) (width : Nat) (f : Fields) (cs : Chars) :
    Option (Fields × Chars) := do
  let (n, rest) ← takeExactly? width cs
  some (← part.put? n f, rest)

def maxOffset : Int := 86340

def completeInstant? (text : String) : Option Instant := do
  let (f, r) ← takeFixed? (.part .year) 4 .none text.toList
  let (f, r) ← takeFixed? (.part .month) 2 f (← takeChar? '-' r)
  let (f, r) ← takeFixed? (.part .day) 2 f (← takeChar? '-' r)
  let (f, r) ← takeFixed? .hour 2 f (← takeTimeMark? r)
  let (f, r) ← takeFixed? (.part .minute) 2 f (← takeChar? ':' r)
  let (f, r) ← takeFixed? (.part .second) 2 f (← takeChar? ':' r)
  let (f, r) ← Item.readSimple f r (.fraction none)
  let (offset, r) ← takeOffset? true false (takeChar? ':') r
  let f ← f.put? .offset (← within? (-maxOffset) maxOffset offset)
  if r.isEmpty then f.zonedInstant? else none

def plainLayouts : List String :=
  ["%Y-%m-%dT%H:%M:%S%.f", "%Y-%m-%d %H:%M:%S%.f", "%Y-%m-%d"]

def instantInAny? (layouts : List String) (text : String) : Option Instant :=
  layouts.findSome? fun layout => instantIn? layout text

def plainInstant? (text : String) : Option Instant :=
  completeInstant? text <|> instantInAny? plainLayouts text

end SearchQuery.Calendar
