import Migration.Unicode.Derived
import Migration.Unicode.Script

/-!
# Segmentation

The classes of characters by which a text is divided into user-perceived characters, words and
sentences. Each character is in one class of each division at most.
-/

namespace Migration.Unicode

open Category

def carriageReturn : CodeSet :=
  .singleton 0xD

def lineFeed : CodeSet :=
  .singleton 0xA

def zeroWidthJoiner : CodeSet :=
  .singleton 0x200D

/-- The character that permits a joined form without asking for one. -/
def zeroWidthNonJoiner : CodeSet :=
  .singleton 0x200C

/-! ## User-perceived characters -/

namespace Grapheme

def extending : CodeSet :=
  graphemeExtend ∪ emojiModifier

/-- The reserved code points count as controls where they are ignored in display. -/
def control : CodeSet :=
  .union [lineSeparator, paragraphSeparator, Category.control, format,
      unassigned ∩ defaultIgnorable] \
    .union [carriageReturn, lineFeed, zeroWidthJoiner, zeroWidthNonJoiner,
      prependedConcatenationMark, graphemeExtend]

/-- Marks that take space, but belong to no character before them. -/
def detachedMarks : CodeSet :=
  .ofRanges
    [(0x102B, 0x102C), (0x1038, 0x1038), (0x1062, 0x1064), (0x1067, 0x106D), (0x1083, 0x1083),
      (0x1087, 0x108C), (0x108F, 0x108F), (0x109A, 0x109C), (0x1A61, 0x1A61), (0x1A63, 0x1A64),
      (0xAA7B, 0xAA7B), (0xAA7D, 0xAA7D), (0x11720, 0x11721)]

def spacing : CodeSet :=
  ((spacingMark \ graphemeExtend) ∪ .ofList [0xE33, 0xEB3]) \ detachedMarks

/-- The signs that belong to the character behind them. -/
def prepended : CodeSet :=
  prependedConcatenationMark ∪
    .ofRanges
      [(0xD4E, 0xD4E), (0x111C2, 0x111C3), (0x113D1, 0x113D1), (0x1193F, 0x1193F),
        (0x11941, 0x11941), (0x11A3A, 0x11A3A), (0x11A84, 0x11A89), (0x11D46, 0x11D46),
        (0x11F02, 0x11F02)]

/-- The leading consonants of syllables. -/
def leading : CodeSet :=
  .ofRanges [(0x1100, 0x115F), (0xA960, 0xA97C)]

/-- The vowels of syllables. -/
def vowel : CodeSet :=
  .ofRanges [(0x1160, 0x11A7), (0xD7B0, 0xD7C6), (0x16D63, 0x16D63), (0x16D67, 0x16D6A)]

/-- The trailing consonants of syllables. -/
def trailing : CodeSet :=
  .ofRanges [(0x11A8, 0x11FF), (0xD7CB, 0xD7FB)]

def syllable : CodeSet :=
  .range 0xAC00 0xD7A3

/-- The syllables without a trailing consonant. For each there are 27 with one. -/
def openSyllable : CodeSet :=
  .ofList ((List.range 399).map fun i => 0xAC00 + 28 * i)

/-- The classes of user-perceived characters. -/
def classes : List NamedSet :=
  [⟨["control", "cn"], control⟩,
    ⟨["cr"], carriageReturn⟩,
    ⟨["extend", "ex"], extending⟩,
    ⟨["l"], leading⟩,
    ⟨["lf"], lineFeed⟩,
    ⟨["lv"], openSyllable⟩,
    ⟨["lvt"], syllable \ openSyllable⟩,
    ⟨["prepend", "pp"], prepended⟩,
    ⟨["regionalindicator", "ri"], regionalIndicator⟩,
    ⟨["spacingmark", "sm"], spacing⟩,
    ⟨["t"], trailing⟩,
    ⟨["v"], vowel⟩,
    ⟨["zwj"], zeroWidthJoiner⟩]

end Grapheme

/-! ## Words -/

namespace Word

/-- The letters of languages that are written without blanks between words. -/
def complexContext : CodeSet :=
  .ofRanges
    [(0xE01, 0xE30), (0xE32, 0xE33), (0xE40, 0xE46), (0xE81, 0xE82), (0xE84, 0xE84),
      (0xE86, 0xE8A), (0xE8C, 0xEA3), (0xEA5, 0xEA5), (0xEA7, 0xEB0), (0xEB2, 0xEB3),
      (0xEBD, 0xEBD), (0xEC0, 0xEC4), (0xEC6, 0xEC6), (0xEDC, 0xEDF), (0x1000, 0x102A),
      (0x103F, 0x103F), (0x1050, 0x1055), (0x105A, 0x105D), (0x1061, 0x1061), (0x1065, 0x1066),
      (0x106E, 0x1070), (0x1075, 0x1081), (0x108E, 0x108E), (0x1780, 0x17B3), (0x17D7, 0x17D7),
      (0x17DC, 0x17DC), (0x1950, 0x196D), (0x1970, 0x1974), (0x1980, 0x19AB), (0x19B0, 0x19C9),
      (0x1A20, 0x1A54), (0x1AA7, 0x1AA7), (0xA9E0, 0xA9E4), (0xA9E6, 0xA9EF), (0xA9FA, 0xA9FE),
      (0xAA60, 0xAA76), (0xAA7A, 0xAA7A), (0xAA7E, 0xAAAF), (0xAAB1, 0xAAB1), (0xAAB5, 0xAAB6),
      (0xAAB9, 0xAABD), (0xAAC0, 0xAAC0), (0xAAC2, 0xAAC2), (0xAADB, 0xAADD),
      (0x11700, 0x1171A), (0x11740, 0x11746)]

def extending : CodeSet :=
  (graphemeExtend ∪ spacingMark ∪ emojiModifier) \ zeroWidthJoiner

/-- The joiners, and the blank without width. -/
def joiners : CodeSet :=
  .range 0x200B 0x200D

def numeric : CodeSet :=
  .union [decimalNumber, .singleton 0x66B, prependedConcatenationMark \ .singleton 0x70F]

def formatting : CodeSet :=
  format \ .union [extending, joiners, prependedConcatenationMark]

def katakana : CodeSet :=
  (Script.find? "katakana").getD ∅ ∪
    .ofRanges
      [(0x3031, 0x3035), (0x309B, 0x309C), (0x30A0, 0x30A0), (0x30FC, 0x30FC), (0xFF70, 0xFF70)]

def hebrewLetter : CodeSet :=
  (Script.find? "hebrew").getD ∅ ∩ otherLetter

/-- The signs that count as letters. -/
def letterLike : CodeSet :=
  .ofRanges
    [(0x2C2, 0x2C5), (0x2D2, 0x2D7), (0x2DE, 0x2DF), (0x2E5, 0x2EB), (0x2ED, 0x2ED),
      (0x2EF, 0x2FF), (0x55A, 0x55C), (0x55E, 0x55E), (0x58A, 0x58A), (0x5F3, 0x5F3),
      (0x70F, 0x70F), (0xA708, 0xA716), (0xA720, 0xA721), (0xA789, 0xA78A), (0xAB5B, 0xAB5B)]

def letter : CodeSet :=
  (alphabetic \ .union [ideographic, katakana, complexContext,
    (Script.find? "hiragana").getD ∅, extending, hebrewLetter]) ∪ letterLike

/-- The signs within words. -/
def middleOfLetters : CodeSet :=
  .ofList [0x3A, 0xB7, 0x387, 0x55F, 0x5F4, 0x2027, 0xFE13, 0xFE55, 0xFF1A]

/-- The signs within numbers. -/
def middleOfNumbers : CodeSet :=
  .ofList
    [0x2C, 0x3B, 0x37E, 0x589, 0x60C, 0x60D, 0x66C, 0x7F8, 0x2044, 0xFE10, 0xFE14, 0xFE50, 0xFE54,
      0xFF0C, 0xFF1B]

/-- The signs within words and numbers. -/
def middleOfBoth : CodeSet :=
  .ofList [0x2E, 0x2018, 0x2019, 0x2024, 0xFE52, 0xFF07, 0xFF0E]

def newline : CodeSet :=
  .ofRanges [(0xB, 0xC), (0x85, 0x85), (0x2028, 0x2029)]

/-- The classes of words. -/
def classes : List NamedSet :=
  [⟨["aletter", "le"], letter⟩,
    ⟨["cr"], carriageReturn⟩,
    ⟨["doublequote", "dq"], .singleton 0x22⟩,
    ⟨["extend"], extending⟩,
    ⟨["extendnumlet", "ex"], connectorPunctuation ∪ .singleton 0x202F⟩,
    ⟨["format", "fo"], formatting⟩,
    ⟨["hebrewletter", "hl"], hebrewLetter⟩,
    ⟨["katakana", "ka"], katakana⟩,
    ⟨["lf"], lineFeed⟩,
    ⟨["midletter", "ml"], middleOfLetters⟩,
    ⟨["midnum", "mn"], middleOfNumbers⟩,
    ⟨["midnumlet", "mb"], middleOfBoth⟩,
    ⟨["newline", "nl"], newline⟩,
    ⟨["numeric", "nu"], numeric⟩,
    ⟨["regionalindicator", "ri"], regionalIndicator⟩,
    ⟨["singlequote", "sq"], .singleton 0x27⟩,
    ⟨["wsegspace"], spaceSeparator \ .ofList [0xA0, 0x2007, 0x202F]⟩,
    ⟨["zwj"], zeroWidthJoiner⟩]

end Word

/-! ## Sentences -/

namespace Sentence

def extending : CodeSet :=
  graphemeExtend ∪ spacingMark ∪ zeroWidthJoiner

def formatting : CodeSet :=
  format \ .union [extending, zeroWidthJoiner, zeroWidthNonJoiner]

/-- The letters with an uppercase form that begins no sentence. -/
def caseless : CodeSet :=
  .ofRanges [(0x10D0, 0x10FA), (0x10FD, 0x10FF)]

def lower : CodeSet :=
  lowercase \ (extending ∪ caseless)

def upper : CodeSet :=
  (uppercase ∪ titlecaseLetter) \ .ofRanges [(0x1C90, 0x1CBA), (0x1CBD, 0x1CBF)]

/-- A sign of abbreviation that counts as a letter. -/
def geresh : CodeSet :=
  .singleton 0x5F3

def otherLetter : CodeSet :=
  (alphabetic ∪ geresh) \ .union [lower, upper, extending]

def ambiguousTerminal : CodeSet :=
  .ofList [0x2E, 0x2024, 0xFE52, 0xFF0E]

def terminal : CodeSet :=
  sentenceTerminal \ ambiguousTerminal

/-- The signs within sentences. -/
def continuing : CodeSet :=
  .ofRanges
    [(0x2C, 0x2D), (0x3A, 0x3B), (0x37E, 0x37E), (0x55D, 0x55D), (0x60C, 0x60D), (0x7F8, 0x7F8),
      (0x1802, 0x1802), (0x1808, 0x1808), (0x2013, 0x2014), (0x3001, 0x3001), (0xFE10, 0xFE11),
      (0xFE13, 0xFE14), (0xFE31, 0xFE32), (0xFE50, 0xFE51), (0xFE54, 0xFE55), (0xFE58, 0xFE58),
      (0xFE63, 0xFE63), (0xFF0C, 0xFF0D), (0xFF1A, 0xFF1B), (0xFF64, 0xFF64)]

/-- Quotation marks that no category gives as such. -/
def plainQuotes : CodeSet :=
  .ofRanges
    [(0x22, 0x22), (0x27, 0x27), (0x275B, 0x2760), (0x2E00, 0x2E01), (0x2E06, 0x2E08),
      (0x2E0B, 0x2E0B), (0x1F676, 0x1F678)]

def closing : CodeSet :=
  .union [openPunctuation, closePunctuation, initialPunctuation, finalPunctuation, plainQuotes] \
    .union [geresh, ambiguousTerminal, terminal]

def separating : CodeSet :=
  .ofRanges [(0x85, 0x85), (0x2028, 0x2029)]

/-- The classes of sentences. -/
def classes : List NamedSet :=
  [⟨["aterm", "at"], ambiguousTerminal⟩,
    ⟨["cr"], carriageReturn⟩,
    ⟨["close", "cl"], closing⟩,
    ⟨["extend", "ex"], extending⟩,
    ⟨["format", "fo"], formatting⟩,
    ⟨["lf"], lineFeed⟩,
    ⟨["lower", "lo"], lower⟩,
    ⟨["numeric", "nu"], decimalNumber ∪ .range 0x66B 0x66C⟩,
    ⟨["oletter", "le"], otherLetter⟩,
    ⟨["scontinue", "sc"], continuing⟩,
    ⟨["sep", "se"], separating⟩,
    ⟨["sp"], whiteSpace \ .union [separating, carriageReturn, lineFeed]⟩,
    ⟨["sterm", "st"], terminal⟩,
    ⟨["upper", "up"], upper⟩]

end Sentence

end Migration.Unicode
