import SearchQuery.Text.Blank
import SearchQuery.Text.Case
import SearchQuery.Text.Word

/-!
# Analysis of text

An analyzer takes a text to the terms under which it is found.  A term keeps the place of its word
among the words of the text, so that a word that is left out leaves a gap.
-/

set_option autoImplicit false
namespace SearchQuery

/-- A term of a text, the ordinal of its word from 1, and the bytes that the word takes up. -/
structure Token where
  term : String
  position : UInt32
  start : Nat
  stop : Nat
  deriving DecidableEq

/-- Positions are compared and subtracted as numbers. -/
instance positionNumber : CoeOut UInt32 Nat := ⟨UInt32.toNat⟩

abbrev Analyzer := String → List Token

namespace Analysis

/-- A maximal run of letters and numerals, and the number of bytes before it. -/
structure Run where
  start : Nat
  chars : List Char

namespace Run

def stop (r : Run) : Nat := r.start + byteLength r.chars

end Run

def openRun (start : Nat) (reversed : List Char) : List Run :=
  if reversed.isEmpty then [] else [⟨start, reversed.reverse⟩]

/-- The runs of a text behind an open run that begins at byte `start`; `offset` bytes have been
read. -/
def runsFrom (start : Nat) (reversed : List Char) (offset : Nat) : List Char → List Run
  | [] => openRun start reversed
  | c :: rest =>
    let next := offset + c.utf8Size
    if isAlphanumeric c then runsFrom start (c :: reversed) next rest
    else openRun start reversed ++ runsFrom next [] next rest

def runs (text : String) : List Run := runsFrom 0 [] 0 text.toList

def maxWordBytes : Nat := 128

def token (r : Run) (position : UInt32) : Token :=
  ⟨toLowerCase (String.ofList r.chars), position, r.start, r.stop⟩

def stopWords : List String := [
  "a", "an", "and", "are", "as", "at", "be", "but", "by", "for", "if", "in", "into", "is", "it",
  "no", "not", "of", "on", "or", "such", "that", "the", "their", "then", "there", "these", "they",
  "this", "to", "was", "will", "with"]

/-- The tokens of words, of which the first has the given position.  Positions are counted in 32
bits: behind the last of them comes 0. -/
def tokensFrom (position : UInt32) : List Run → List Token
  | [] => []
  | r :: rest =>
    if byteLength r.chars ≤ maxWordBytes then token r position :: tokensFrom (position + 1) rest
    else tokensFrom (position + 1) rest

end Analysis

namespace Analyzer

def keyword : Analyzer := fun text =>
  if text.isEmpty then [] else [⟨text, 1, 0, text.utf8ByteSize⟩]

def simple : Analyzer := fun text => Analysis.tokensFrom 1 (Analysis.runs text)

/-- The words of the text in lower case without the most common ones. -/
def standard : Analyzer := fun text =>
  (simple text).filter fun t => !Analysis.stopWords.contains t.term

end Analyzer

end SearchQuery
