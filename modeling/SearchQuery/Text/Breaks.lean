import SearchQuery.Text.Property
import SearchQuery.Text.Script

/-!
# Breaks

The classes by which a text is cut into clusters of characters, words and sentences.  They follow
from the categories and the other properties of characters, up to a few characters each.
-/

set_option autoImplicit false
namespace SearchQuery
open Category Property

def numberSign : CodePoints := .ofText "600-605 6dd 890-891 8e2 110bd 110cd"

def zeroWidthJoiner : CodePoints := .ofText "200d"

def isLineEnd (c : Char) : Bool := c == '\n' || c == '\r'

namespace GraphemeBreak

def leadingJamo : CodePoints := .ofText "1100-115f a960-a97c"

def vowelJamo : CodePoints := .ofText "1160-11a7 d7b0-d7c6 16d63 16d67-16d6a"

def trailingJamo : CodePoints := .ofText "11a8-11ff d7cb-d7fb"

def prepended : CodePoints := .ofText
  "600-605 6dd 70f 890-891 8e2 d4e 110bd 110cd 111c2-111c3 113d1 1193f 11941 11a3a
   11a84-11a89 11d46 11f02"

def standalone : CodePoints := .ofText
  "102b-102c 1038 1062-1064 1067-106d 1083 1087-108c 108f 109a-109c 1a61 1a63-1a64 aa7b aa7d
   11720-11721"

/-- A syllable of Hangul; one of 28 has no trailing consonant. -/
def isSyllable (trailing : Bool) (c : Char) : Bool :=
  decide (0xac00 ≤ c.toNat) && decide (c.toNat ≤ 0xd7a3) &&
    ((c.toNat - 0xac00) % 28 != 0) == trailing

def extend (c : Char) : Bool := graphemeExtend c || emojiModifierTable.contains c

def control (c : Char) : Bool :=
  (lineSeparator.contains c || paragraphSeparator.contains c || Category.control.contains c ||
    format.contains c || unassigned.contains c && defaultIgnorable c) &&
    !(graphemeExtend c || prependedConcatenationMarkTable.contains c ||
      zeroWidthJoiner.contains c || isLineEnd c)

def spacing (c : Char) : Bool :=
  (spacingMark.contains c || c.toNat == 0xe33 || c.toNat == 0xeb3) &&
    !(graphemeExtend c || standalone.contains c)

def named : List (List String × (Char → Bool)) := [
  (["cr"], (· == '\r')),
  (["cn", "control"], control),
  (["ex", "extend"], extend),
  (["l"], leadingJamo.contains),
  (["lf"], (· == '\n')),
  (["lv"], isSyllable false),
  (["lvt"], isSyllable true),
  (["pp", "prepend"], prepended.contains),
  (["ri", "regionalindicator"], regionalIndicatorTable.contains),
  (["sm", "spacingmark"], spacing),
  (["t"], trailingJamo.contains),
  (["v"], vowelJamo.contains),
  (["zwj"], zeroWidthJoiner.contains)]

end GraphemeBreak

namespace WordBreak

def middleLetter : CodePoints := .ofText "3a b7 387 55f 5f4 2027 fe13 fe55 ff1a"

def middleNumber : CodePoints := .ofText "2c 3b 37e 589 60c-60d 66c 7f8 2044 fe50 fe54 ff0c ff1b"

def middleOfBoth : CodePoints := .ofText "2e 2018-2019 2024 fe52 ff07 ff0e"

def newline : CodePoints := .ofText "b-c 85 2028-2029"

def otherWordLetter : CodePoints := .ofText
  "2c2-2c5 2d2-2d7 2de-2df 2e5-2eb 2ed 2ef-2ff 55a-55c 55e 58a 5f3 70f a708-a716 a720-a721
   a789-a78a ab5b"

/-- Letters of scripts that set no spaces between words. -/
def unspacedLetter : CodePoints := .ofText
  "e01-e30 e32-e33 e40-e46 e81-e82 e84 e86-e8a e8c-ea3 ea5 ea7-eb0 eb2-eb3 ebd ec0-ec4 ec6
   edc-edf 1000-102a 103f 1050-1055 105a-105d 1061 1065-1066 106e-1070 1075-1081 108e
   1780-17b3 17d7 17dc 1950-196d 1970-1974 1980-19ab 19b0-19c9 1a20-1a54 1aa7 a9e0-a9e4
   a9e6-a9ef a9fa-a9fe aa60-aa76 aa7a aa7e-aaaf aab1 aab5-aab6 aab9-aabd aac0 aac2 aadb-aadd
   11700-1171a 11740-11746"

def otherKatakana : CodePoints := .ofText "3031-3035 309b-309c 30a0 30fc ff70"

def extend (c : Char) : Bool :=
  graphemeExtend c || spacingMark.contains c || emojiModifierTable.contains c

def formatChar (c : Char) : Bool :=
  format.contains c && !(extend c || numberSign.contains c || c.toNat == 0x70f ||
    c.toNat == 0x200b || zeroWidthJoiner.contains c)

def numeric (c : Char) : Bool :=
  decimalNumber.contains c || numberSign.contains c || c.toNat == 0x66b || c.toNat == 0x19da

def joining (c : Char) : Bool := connectorPunctuation.contains c || c.toNat == 0x202f

def space (c : Char) : Bool :=
  spaceSeparator.contains c && !(c.toNat == 0xa0 || c.toNat == 0x2007 || c.toNat == 0x202f)

def hebrewLetter (c : Char) : Bool := Script.isOf "hebr" c && otherLetter.contains c

def katakana (c : Char) : Bool := Script.isOf "kana" c || otherKatakana.contains c

def wordLetter (c : Char) : Bool :=
  otherWordLetter.contains c || alphabetic c &&
    !(ideographicTable.contains c || katakana c || hebrewLetter c || extend c ||
      Script.isOf "hira" c || unspacedLetter.contains c)

def named : List (List String × (Char → Bool)) := [
  (["le", "aletter"], wordLetter),
  (["cr"], (· == '\r')),
  (["dq", "doublequote"], (·.toNat == 0x22)),
  (["extend"], extend),
  (["ex", "extendnumlet"], joining),
  (["fo", "format"], formatChar),
  (["hl", "hebrewletter"], hebrewLetter),
  (["ka", "katakana"], katakana),
  (["lf"], (· == '\n')),
  (["ml", "midletter"], middleLetter.contains),
  (["mn", "midnum"], middleNumber.contains),
  (["mb", "midnumlet"], middleOfBoth.contains),
  (["nl", "newline"], newline.contains),
  (["nu", "numeric"], numeric),
  (["ri", "regionalindicator"], regionalIndicatorTable.contains),
  (["sq", "singlequote"], (·.toNat == 0x27)),
  (["wsegspace"], space),
  (["zwj"], zeroWidthJoiner.contains)]

end WordBreak

namespace SentenceBreak

def separator : CodePoints := .ofText "85 2028-2029"

def ambiguousEnd : CodePoints := .ofText "2e 2024 fe52 ff0e"

def continuation : CodePoints := .ofText
  "2c-2d 3a-3b 37e 55d 60c-60d 7f8 1802 1808 2013-2014 3001 fe10-fe11 fe13-fe14 fe31-fe32
   fe50-fe51 fe54-fe55 fe58 fe63 ff0c-ff0d ff1a-ff1b ff64"

def otherClosing : CodePoints := .ofText "275b-2760 2e00-2e01 2e06-2e08 2e0b 1f676-1f678"

def georgianLower : CodePoints := .ofText "10d0-10fa 10fd-10ff"

def georgianUpper : CodePoints := .ofText "1c90-1cba 1cbd-1cbf"

def extend (c : Char) : Bool :=
  graphemeExtend c || spacingMark.contains c || zeroWidthJoiner.contains c

def formatChar (c : Char) : Bool :=
  format.contains c && !(extend c || numberSign.contains c)

def space (c : Char) : Bool :=
  whiteSpaceTable.contains c && !(separator.contains c || isLineEnd c)

def lower (c : Char) : Bool := lowercase c && !(graphemeExtend c || georgianLower.contains c)

def upper (c : Char) : Bool :=
  (uppercase c || titlecaseLetter.contains c) && !georgianUpper.contains c

def letterChar (c : Char) : Bool :=
  (alphabetic c || c.toNat == 0x5f3) && !(lower c || upper c || extend c)

def numeric (c : Char) : Bool :=
  decimalNumber.contains c || numberSign.contains c || c.toNat == 0x66b || c.toNat == 0x66c ||
    c.toNat == 0x19da

def ending (c : Char) : Bool := sentenceTerminalTable.contains c && !ambiguousEnd.contains c

def closing (c : Char) : Bool :=
  (openPunctuation.contains c || closePunctuation.contains c || initialPunctuation.contains c ||
    finalPunctuation.contains c || quotationMarkTable.contains c || otherClosing.contains c) &&
    !(c.toNat == 0xff02 || c.toNat == 0xff07)

def named : List (List String × (Char → Bool)) := [
  (["at", "aterm"], ambiguousEnd.contains),
  (["cr"], (· == '\r')),
  (["cl", "close"], closing),
  (["ex", "extend"], extend),
  (["fo", "format"], formatChar),
  (["lf"], (· == '\n')),
  (["lo", "lower"], lower),
  (["nu", "numeric"], numeric),
  (["le", "oletter"], letterChar),
  (["sc", "scontinue"], continuation.contains),
  (["st", "sterm"], ending),
  (["se", "sep"], separator.contains),
  (["sp"], space),
  (["up", "upper"], upper)]

end SentenceBreak

end SearchQuery
