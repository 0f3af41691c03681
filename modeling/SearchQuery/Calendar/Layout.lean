import SearchQuery.Calendar.Fields
import SearchQuery.Text.Blank

/-!
# Layouts

A layout says how a date and time is written: directives behind percent signs stand for its parts,
blanks for any blanks, and all else for itself.
-/

set_option autoImplicit false
namespace SearchQuery.Calendar

inductive Quantity where
  | part (part : Part)
  | dayFromSunday | dayFromMonday
  | hour | hourOfHalf
  deriving DecidableEq

inductive Item where
  | literal (text : List Char)
  | blank
  | number (quantity : Quantity) (width : Option Nat) (signed : Bool)
  | monthName (long : Bool)
  | weekdayName (long : Bool)
  | half
  | fraction (digits : Option Nat)
  | fractionDigits (digits : Nat)
  | zoneName
  | offset (permissive : Bool)
  | complete

namespace Item

def unsigned (part : Part) (width : Nat) : Item := .number (.part part) (some width) false

def year : Item := .number (.part .year) (some 4) true
def month : Item := unsigned .month 2
def day : Item := unsigned .day 2
def hour : Item := .number .hour (some 2) false
def minute : Item := unsigned .minute 2
def second : Item := unsigned .second 2
def yearOfCentury : Item := unsigned .yearOfCentury 2
def hourOfHalf : Item := .number .hourOfHalf (some 2) false
def char (c : Char) : Item := .literal [c]

def clock : List Item := [hour, char ':', minute, char ':', second]

def slashed : List Item := [month, char '/', day, char '/', yearOfCentury]

def ofNumberLetter? : Char → Option Item
  | 'C' => some (unsigned .century 2)
  | 'G' => some (.number (.part .isoYear) (some 4) true)
  | 'H' => some hour
  | 'I' => some hourOfHalf
  | 'M' => some minute
  | 'S' => some second
  | 'U' => some (unsigned .weekFromSunday 2)
  | 'V' => some (unsigned .isoWeek 2)
  | 'W' => some (unsigned .weekFromMonday 2)
  | 'Y' => some year
  | 'd' => some day
  | 'e' => some day
  | 'f' => some (unsigned .nanosecond 9)
  | 'g' => some (unsigned .isoYearOfCentury 2)
  | 'j' => some (unsigned .dayOfYear 3)
  | 'k' => some hour
  | 'l' => some hourOfHalf
  | 'm' => some month
  | 'q' => some (unsigned .quarter 1)
  | 's' => some (.number (.part .timestamp) none false)
  | 'u' => some (.number .dayFromMonday (some 1) false)
  | 'w' => some (.number .dayFromSunday (some 1) false)
  | 'y' => some yearOfCentury
  | _ => none

def ofLetter? : Char → Option (List Item)
  | 'A' => some [.weekdayName true]
  | 'B' => some [.monthName true]
  | 'D' => some slashed
  | 'F' => some [year, char '-', month, char '-', day]
  | 'P' => some [.half]
  | 'R' => some [hour, char ':', minute]
  | 'T' => some clock
  | 'X' => some clock
  | 'Z' => some [.zoneName]
  | 'a' => some [.weekdayName false]
  | 'b' => some [.monthName false]
  | 'h' => some [.monthName false]
  | 'c' => some ([.weekdayName false, .blank, .monthName false, .blank, day, .blank] ++ clock ++
      [.blank, year])
  | 'n' => some [.blank]
  | 't' => some [.blank]
  | 'p' => some [.half]
  | 'r' => some [hourOfHalf, char ':', minute, char ':', second, .blank, .half]
  | 'v' => some [day, char '-', .monthName false, char '-', year]
  | 'x' => some slashed
  | 'z' => some [.offset false]
  | '+' => some [.complete]
  | '%' => some [char '%']
  | _ => none

end Item

def Item.named? (c : Char) : Option (List Item) :=
  ((ofNumberLetter? c).map fun item => [item]) <|> ofLetter? c

/-- A number whose padding is given, which makes no difference to reading. -/
def Item.padded? (c : Char) : Option (List Item) := (ofNumberLetter? c).map fun item => [item]

def Layout.join (items rest : Option (List Item)) : Option (List Item) := do
  return (← items) ++ (← rest)

def Layout.items? : List Char → Option (List Item)
  | [] => some []
  | '%' :: ':' :: ':' :: ':' :: 'z' :: r => join (some [.offset false]) (items? r)
  | '%' :: ':' :: ':' :: 'z' :: r => join (some [.offset false]) (items? r)
  | '%' :: ':' :: 'z' :: r => join (some [.offset false]) (items? r)
  | '%' :: '#' :: 'z' :: r => join (some [.offset true]) (items? r)
  | '%' :: '.' :: '3' :: 'f' :: r => join (some [.fraction (some 3)]) (items? r)
  | '%' :: '.' :: '6' :: 'f' :: r => join (some [.fraction (some 6)]) (items? r)
  | '%' :: '.' :: '9' :: 'f' :: r => join (some [.fraction (some 9)]) (items? r)
  | '%' :: '.' :: 'f' :: r => join (some [.fraction none]) (items? r)
  | '%' :: '3' :: 'f' :: r => join (some [.fractionDigits 3]) (items? r)
  | '%' :: '6' :: 'f' :: r => join (some [.fractionDigits 6]) (items? r)
  | '%' :: '9' :: 'f' :: r => join (some [.fractionDigits 9]) (items? r)
  | '%' :: '-' :: c :: r => join (Item.padded? c) (items? r)
  | '%' :: '0' :: c :: r => join (Item.padded? c) (items? r)
  | '%' :: '_' :: c :: r => join (Item.padded? c) (items? r)
  | '%' :: c :: r => join (Item.named? c) (items? r)
  | ['%'] => none
  | c :: r => join (some [if isBlank c then .blank else .char c]) (items? r)

end SearchQuery.Calendar
