import Rulebook.Unicode.Derived
import Rulebook.Unicode.Script

/-!
# Rulebook.Unicode.Break

Kinds of characters where text is broken: into graphemes, which readers take for one character, into
words and into sentences.  A kind that has no name of its own is not listed.
-/

namespace Rulebook.Unicode.Break

open CodeSet (unions)
open Binary Category Derived

/-- The carriage return. -/
def carriageReturn : CodeSet :=
  .range 0xD 0xD

/-- The line feed. -/
def lineFeed : CodeSet :=
  .range 0xA 0xA

/-- The mark that joins characters into one. -/
def joiner : CodeSet :=
  .range 0x200D 0x200D

/-- Marks that space and do not only extend a character. -/
def spacing : CodeSet :=
  spacingMark \ graphemeExtend

/-! ## Graphemes -/

namespace Grapheme

/-- What extends the character before it. -/
def extend : CodeSet :=
  (graphemeExtend ∪ emojiModifier) \ joiner

/-- Marks that space and stay with the character before them. -/
def spacingMark : CodeSet :=
  (spacing ∪ .ofTable "E33 EB3") \
    .ofTable
      "102B-102C 1038 1062-1064 1067-106D 1083 1087-108C 108F 109A-109C 1A61 1A63-1A64 AA7B AA7D
        11720-11721"

/-- What stays with the character after it. -/
def prepend : CodeSet :=
  prependedConcatenationMark ∪
    .ofTable "D4E 111C2-111C3 113D1 1193F 11941 11A3A 11A84-11A89 11D46 11F02"

/-- Codes that stand apart on both sides. -/
def control : CodeSet :=
  unions [lineSeparator, paragraphSeparator, Category.control, format,
      unassigned ∩ defaultIgnorable] \
    unions [carriageReturn, lineFeed, .ofTable "200C-200D", prependedConcatenationMark, extend]

/-- Leading consonants of Korean. -/
def leading : CodeSet :=
  .ofTable "1100-115F A960-A97C"

/-- Vowels of Korean, and vowels that join in the same way. -/
def vowel : CodeSet :=
  .ofTable "1160-11A7 D7B0-D7C6 16D63 16D67-16D6A"

/-- Trailing consonants of Korean. -/
def trailing : CodeSet :=
  .ofTable "11A8-11FF D7CB-D7FB"

/-- Syllables of Korean without a trailing consonant. -/
def openSyllable : CodeSet :=
  .ofTable "AC00-D788/1C"

/-- Syllables of Korean with a trailing consonant. -/
def closedSyllable : CodeSet :=
  .range 0xAC00 0xD7A3 \ openSyllable

/-- The kinds at the breaks between graphemes, under all of their names. -/
def named : List (List String × CodeSet) := [
  (["cn", "control"], control),
  (["cr"], carriageReturn),
  (["ex", "extend"], extend),
  (["l"], leading),
  (["lf"], lineFeed),
  (["lv"], openSyllable),
  (["lvt"], closedSyllable),
  (["pp", "prepend"], prepend),
  (["ri", "regionalindicator"], regionalIndicator),
  (["sm", "spacingmark"], spacingMark),
  (["t"], trailing),
  (["v"], vowel),
  (["zwj"], joiner)]

end Grapheme

/-! ## Words -/

namespace Word

/-- What extends the character before it. -/
def extend : CodeSet :=
  unions [graphemeExtend, spacing, emojiModifier] \ joiner

/-- Signs of number that stand in front of digits. -/
def numberSign : CodeSet :=
  .ofTable "600-605 6DD 890-891 8E2 110BD 110CD"

/-- Marks of layout. -/
def format : CodeSet :=
  Category.format \ unions [.ofTable "200B-200D", prependedConcatenationMark, extend]

/-- Letters of Katakana. -/
def katakana : CodeSet :=
  .ofTable
    "3031-3035 309B-309C 30A0-30FA 30FC-30FF 31F0-31FF 32D0-32FE 3300-3357 FF66-FF9D 1AFF0-1AFF3
      1AFF5-1AFFB 1AFFD-1AFFE 1B000 1B120-1B122 1B155 1B164-1B167"

/-- Letters of Hebrew. -/
def hebrewLetter : CodeSet :=
  .ofTable "5D0-5EA 5EF-5F2 FB1D FB1F-FB28 FB2A-FB36 FB38-FB3C FB3E FB40-FB41 FB43-FB44 FB46-FB4F"

/-- Letters of scripts that do not mark where words end. -/
def unspacedLetter : CodeSet :=
  .ofTable
    "E01-E30 E32-E33 E40-E46 E81-E82 E84 E86-E8A E8C-EA3 EA5 EA7-EB0 EB2-EB3 EBD EC0-EC4 EC6
      EDC-EDF 1000-102A 103F 1050-1055 105A-105D 1061 1065-1066 106E-1070 1075-1081 108E
      1780-17B3 17D7 17DC 1950-196D 1970-1974 1980-19AB 19B0-19C9 1A20-1A54 1AA7 A9E0-A9E4
      A9E6-A9EF A9FA-A9FE AA60-AA76 AA7A AA7E-AAAF AAB1 AAB5-AAB6 AAB9-AABD AAC0 AAC2 AADB-AADD
      11700-1171A 11740-11746"

/-- Marks that count as letters of a word. -/
def letterLike : CodeSet :=
  .ofTable
    "2C2-2C5 2D2-2D7 2DE-2DF 2E5-2EB 2ED 2EF-2FF 55A-55C 55E 58A 5F3 70F A708-A716 A720-A721
      A789-A78A AB5B"

/-- Letters that words are made of. -/
def letter : CodeSet :=
  (alphabetic \ unions
    [ideographic, katakana, .ofTable "3041-3096 309D-309F 1B001-1B11F 1B132 1B150-1B152 1F200",
      extend, hebrewLetter, unspacedLetter]) ∪ letterLike

/-- Digits. -/
def numeric : CodeSet :=
  unions [decimalNumber, numberSign, .ofTable "66B"]

/-- The kinds at the breaks between words, under all of their names. -/
def named : List (List String × CodeSet) := [
  (["cr"], carriageReturn),
  (["dq", "doublequote"], .range 0x22 0x22),
  (["ex", "extendnumlet"], connectorPunctuation ∪ .ofTable "202F"),
  (["extend"], extend),
  (["fo", "format"], format),
  (["hl", "hebrewletter"], hebrewLetter),
  (["ka", "katakana"], katakana),
  (["le", "aletter"], letter),
  (["lf"], lineFeed),
  (["mb", "midnumlet"], .ofTable "2E 2018-2019 2024 FE52 FF07 FF0E"),
  (["ml", "midletter"], .ofTable "3A B7 387 55F 5F4 2027 FE13 FE55 FF1A"),
  (["mn", "midnum"], .ofTable "2C 3B 37E 589 60C-60D 66C 7F8 2044 FE10 FE14 FE50 FE54 FF0C FF1B"),
  (["nl", "newline"], .ofTable "B-C 85 2028-2029"),
  (["nu", "numeric"], numeric),
  (["ri", "regionalindicator"], regionalIndicator),
  (["sq", "singlequote"], .range 0x27 0x27),
  (["wsegspace"], .ofTable "20 1680 2000-2006 2008-200A 205F 3000"),
  (["zwj"], joiner)]

end Word

/-! ## Sentences -/

namespace Sentence

/-- What extends the character before it. -/
def extend : CodeSet :=
  unions [graphemeExtend, spacing, joiner]

/-- Marks of layout. -/
def format : CodeSet :=
  Category.format \ unions [.ofTable "200C-200D", Word.numberSign, extend]

/-- Spaces. -/
def space : CodeSet :=
  whiteSpace \ .ofTable "A D 85 A0 2028-2029"

/-- Letters of lower case, but for those of Georgian. -/
def lower : CodeSet :=
  lowercase \ (graphemeExtend ∪ .ofTable "10D0-10FA 10FD-10FF")

/-- Letters that are not of lower case, but for those of Georgian. -/
def upper : CodeSet :=
  (uppercase ∪ titlecaseLetter) \ .ofTable "1C90-1CBA 1CBD-1CBF"

/-- Letters without case. -/
def otherLetter : CodeSet :=
  (alphabetic ∪ .ofTable "A0 5F3") \ unions [lower, upper, extend]

/-- Marks that may end a sentence. -/
def possibleEnd : CodeSet :=
  .ofTable "2E 2024 FE52 FF0E"

/-- Marks that close what a sentence has inside. -/
def close : CodeSet :=
  unions [openPunctuation, closePunctuation, initialPunctuation, finalPunctuation,
    .ofTable "22 27 275B-2760 2E00-2E01 2E06-2E08 2E0B 1F676-1F678"]

/-- Marks after which a sentence goes on. -/
def continuing : CodeSet :=
  .ofTable
    "2C-2D 3A 55D 60C-60D 7F8 1802 1808 2013-2014 3001 FE10-FE11 FE13 FE31-FE32 FE50-FE51 FE55
      FE58 FE63 FF0C-FF0D FF1A FF64"

/-- The kinds at the breaks between sentences, under all of their names. -/
def named : List (List String × CodeSet) := [
  (["at", "aterm"], possibleEnd),
  (["cl", "close"], close),
  (["cr"], carriageReturn),
  (["ex", "extend"], extend),
  (["fo", "format"], format),
  (["le", "oletter"], otherLetter),
  (["lf"], lineFeed),
  (["lo", "lower"], lower),
  (["nu", "numeric"], Word.numeric ∪ .ofTable "66C"),
  (["sc", "scontinue"], continuing),
  (["se", "sep"], .ofTable "85 2028-2029"),
  (["sp"], space),
  (["st", "sterm"], sentenceTerminal \ possibleEnd),
  (["up", "upper"], upper)]

end Sentence

end Rulebook.Unicode.Break
