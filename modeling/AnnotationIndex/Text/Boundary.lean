import AnnotationIndex.Text.Property
import AnnotationIndex.Text.Script

/-!
# Boundaries

The Unicode properties that tell where graphemes, words and sentences end. Each has a table of its
values: their names, in lower case and without separators, and their characters.
-/

namespace AnnotationIndex.Text.Boundary

open Property

private def codes (spans : List Span) : CharSet := .ofSpans spans

abbrev Values := List (List String × CharSet)

def value? (values : Values) (name : String) : Option CharSet :=
  (values.find? fun (names, _) => names.contains name).map (·.2)

def looseMarks : List Span :=
  [(0x102B, 0x102C, 1), (0x1038, 0x1038, 1), (0x1062, 0x1064, 1), (0x1067, 0x106D, 1),
   (0x1083, 0x1083, 1), (0x1087, 0x108C, 1), (0x108F, 0x108F, 1), (0x109A, 0x109C, 1),
   (0x1A61, 0x1A61, 1), (0x1A63, 0x1A64, 1), (0xAA7B, 0xAA7D, 2), (0x11720, 0x11721, 1)]

def joiners : List Span := [(0x200C, 0x200D, 1)]

def tags : List Span := [(0xE0020, 0xE007F, 1)]

def graphemeControl : CharSet :=
  (CharSet.unions [Category.sets [.control, .format, .lineSeparator, .paragraphSeparator],
    defaultIgnorable.minus Category.assigned]).minus
    (codes ([(0xA, 0xA, 1), (0xD, 0xD, 1)] ++ joiners ++ tags ++ prependedConcatenationMark))

def graphemeSpacingMark : CharSet :=
  ((Category.spacingMark.set.minus graphemeExtend).minus (codes looseMarks)).union
    (codes [(0xE33, 0xE33, 1), (0xEB3, 0xEB3, 1)])

def openSyllables : CharSet :=
  .ofSpans [(0xAC00, 0xD788, 28)]

def graphemes : Values :=
  [(["cn", "control"], graphemeControl),
   (["cr"], codes [(0xD, 0xD, 1)]),
   (["ex", "extend"], graphemeExtend.union (codes emojiModifier)),
   (["l"], codes [(0x1100, 0x115F, 1), (0xA960, 0xA97C, 1)]),
   (["lf"], codes [(0xA, 0xA, 1)]),
   (["lv"], openSyllables),
   (["lvt"], (codes [(0xAC00, 0xD7A3, 1)]).minus openSyllables),
   (["pp", "prepend"], codes (prependedConcatenationMark ++
     [(0xD4E, 0xD4E, 1), (0x111C2, 0x111C3, 1), (0x113D1, 0x113D1, 1), (0x1193F, 0x11941, 2),
      (0x11A3A, 0x11A3A, 1), (0x11A84, 0x11A89, 1), (0x11D46, 0x11D46, 1), (0x11F02, 0x11F02, 1)])),
   (["ri", "regionalindicator"], codes regionalIndicator),
   (["sm", "spacingmark"], graphemeSpacingMark),
   (["t"], codes [(0x11A8, 0x11FF, 1), (0xD7CB, 0xD7FB, 1)]),
   (["v"], codes [(0x1160, 0x11A7, 1), (0xD7B0, 0xD7C6, 1), (0x16D63, 0x16D63, 1),
     (0x16D67, 0x16D6A, 1)]),
   (["zwj"], codes [(0x200D, 0x200D, 1)])]

def wordExtend : CharSet :=
  (CharSet.unions [graphemeExtend, Category.spacingMark.set, codes emojiModifier]).minus
    (codes [(0x200D, 0x200D, 1)])

def hebrewLetters : List Span :=
  [(0x5D0, 0x5EA, 1), (0x5EF, 0x5F2, 1), (0xFB1D, 0xFB1D, 1), (0xFB1F, 0xFB28, 1),
   (0xFB2A, 0xFB36, 1), (0xFB38, 0xFB3C, 1), (0xFB3E, 0xFB3E, 1), (0xFB40, 0xFB41, 1),
   (0xFB43, 0xFB44, 1), (0xFB46, 0xFB4F, 1)]

def katakana : List Span :=
  [(0x3031, 0x3035, 1), (0x309B, 0x309C, 1), (0x30A0, 0x30FA, 1), (0x30FC, 0x30FF, 1),
   (0x31F0, 0x31FF, 1), (0x32D0, 0x32FE, 1), (0x3300, 0x3357, 1), (0xFF66, 0xFF9D, 1),
   (0x1AFF0, 0x1AFF3, 1), (0x1AFF5, 0x1AFFB, 1), (0x1AFFD, 0x1AFFE, 1), (0x1B000, 0x1B000, 1),
   (0x1B120, 0x1B122, 1), (0x1B155, 0x1B155, 1), (0x1B164, 0x1B167, 1)]

/-- Letters of scripts that are written without blanks between words. -/
def unspacedLetters : List Span :=
  [(0xE01, 0xE30, 1), (0xE32, 0xE33, 1), (0xE40, 0xE46, 1), (0xE81, 0xE82, 1), (0xE84, 0xE84, 1),
   (0xE86, 0xE8A, 1), (0xE8C, 0xEA3, 1), (0xEA5, 0xEA5, 1), (0xEA7, 0xEB0, 1), (0xEB2, 0xEB3, 1),
   (0xEBD, 0xEBD, 1), (0xEC0, 0xEC4, 1), (0xEC6, 0xEC6, 1), (0xEDC, 0xEDF, 1), (0x1000, 0x102A, 1),
   (0x103F, 0x103F, 1), (0x1050, 0x1055, 1), (0x105A, 0x105D, 1), (0x1061, 0x1061, 1),
   (0x1065, 0x1066, 1), (0x106E, 0x1070, 1), (0x1075, 0x1081, 1), (0x108E, 0x108E, 1),
   (0x1780, 0x17B3, 1), (0x17D7, 0x17D7, 1), (0x17DC, 0x17DC, 1), (0x1950, 0x196D, 1),
   (0x1970, 0x1974, 1), (0x1980, 0x19AB, 1), (0x19B0, 0x19C9, 1), (0x1A20, 0x1A54, 1),
   (0x1AA7, 0x1AA7, 1), (0xA9E0, 0xA9E4, 1), (0xA9E6, 0xA9EF, 1), (0xA9FA, 0xA9FE, 1),
   (0xAA60, 0xAA76, 1), (0xAA7A, 0xAA7A, 1), (0xAA7E, 0xAAAF, 1), (0xAAB1, 0xAAB1, 1),
   (0xAAB5, 0xAAB6, 1), (0xAAB9, 0xAABD, 1), (0xAAC0, 0xAAC2, 2), (0xAADB, 0xAADD, 1),
   (0x11700, 0x1171A, 1), (0x11740, 0x11746, 1)]

def wordSymbols : List Span :=
  [(0x2C2, 0x2C5, 1), (0x2D2, 0x2D7, 1), (0x2DE, 0x2DF, 1), (0x2E5, 0x2EB, 1), (0x2ED, 0x2ED, 1),
   (0x2EF, 0x2FF, 1), (0x55A, 0x55C, 1), (0x55E, 0x55E, 1), (0x58A, 0x58A, 1), (0x5F3, 0x5F3, 1),
   (0x70F, 0x70F, 1), (0xA708, 0xA716, 1), (0xA720, 0xA721, 1), (0xA789, 0xA78A, 1),
   (0xAB5B, 0xAB5B, 1)]

def wordLetters : CharSet :=
  ((alphabetic.minus (.unions [codes ideographic, codes katakana, (script? "hiragana").getD .none,
    wordExtend, codes hebrewLetters, codes unspacedLetters]))).union (codes wordSymbols)

def numberSigns : CharSet :=
  (codes prependedConcatenationMark).minus (codes [(0x70F, 0x70F, 1)])

def decimalDigits : CharSet := Category.decimalNumber.set.union numberSigns

def formats : CharSet :=
  Category.format.set.minus (codes (joiners ++ tags ++ prependedConcatenationMark))

def words : Values :=
  [(["le", "aletter"], wordLetters),
   (["cr"], codes [(0xD, 0xD, 1)]),
   (["dq", "doublequote"], codes [(0x22, 0x22, 1)]),
   (["extend"], wordExtend),
   (["ex", "extendnumlet"], codes
     [(0x5F, 0x5F, 1), (0x202F, 0x202F, 1), (0x203F, 0x2040, 1), (0x2054, 0x2054, 1),
      (0xFE33, 0xFE34, 1), (0xFE4D, 0xFE4F, 1), (0xFF3F, 0xFF3F, 1)]),
   (["fo", "format"], formats.minus (codes [(0x200B, 0x200B, 1)])),
   (["hl", "hebrewletter"], codes hebrewLetters),
   (["ka", "katakana"], codes katakana),
   (["lf"], codes [(0xA, 0xA, 1)]),
   (["ml", "midletter"], codes
     [(0x3A, 0x3A, 1), (0xB7, 0xB7, 1), (0x387, 0x387, 1), (0x55F, 0x55F, 1), (0x5F4, 0x5F4, 1),
      (0x2027, 0x2027, 1), (0xFE13, 0xFE13, 1), (0xFE55, 0xFE55, 1), (0xFF1A, 0xFF1A, 1)]),
   (["mn", "midnum"], codes
     [(0x2C, 0x2C, 1), (0x3B, 0x3B, 1), (0x37E, 0x37E, 1), (0x589, 0x589, 1), (0x60C, 0x60D, 1),
      (0x66C, 0x66C, 1), (0x7F8, 0x7F8, 1), (0x2044, 0x2044, 1), (0xFE10, 0xFE10, 1),
      (0xFE14, 0xFE14, 1), (0xFE50, 0xFE50, 1), (0xFE54, 0xFE54, 1), (0xFF0C, 0xFF0C, 1),
      (0xFF1B, 0xFF1B, 1)]),
   (["mb", "midnumlet"], codes
     [(0x2E, 0x2E, 1), (0x2018, 0x2019, 1), (0x2024, 0x2024, 1), (0xFE52, 0xFE52, 1),
      (0xFF07, 0xFF07, 1), (0xFF0E, 0xFF0E, 1)]),
   (["nl", "newline"], codes [(0xB, 0xC, 1), (0x85, 0x85, 1), (0x2028, 0x2029, 1)]),
   (["nu", "numeric"], decimalDigits.union (codes [(0x66B, 0x66B, 1)])),
   (["ri", "regionalindicator"], codes regionalIndicator),
   (["sq", "singlequote"], codes [(0x27, 0x27, 1)]),
   (["wsegspace"], Category.spaceSeparator.set.minus
     (codes [(0xA0, 0xA0, 1), (0x2007, 0x2007, 1), (0x202F, 0x202F, 1)])),
   (["zwj"], codes [(0x200D, 0x200D, 1)])]

def sentenceExtend : CharSet := graphemeExtend.union (.union Category.spacingMark.set (codes joiners))

/-- Georgian letters have no case in sentences. -/
def georgianLetters : List Span :=
  [(0x10D0, 0x10FA, 1), (0x10FD, 0x10FF, 1), (0x1C90, 0x1CBA, 1), (0x1CBD, 0x1CBF, 1)]

def sentenceLower : CharSet := (lowercase.minus graphemeExtend).minus (codes georgianLetters)

def sentenceUpper : CharSet :=
  (uppercase.union Category.titlecaseLetter.set).minus (codes georgianLetters)

def fullStops : List Span :=
  [(0x2E, 0x2E, 1), (0x2024, 0x2024, 1), (0xFE52, 0xFE52, 1), (0xFF0E, 0xFF0E, 1)]

def sentences : Values :=
  [(["at", "aterm"], codes fullStops),
   (["cl", "close"], (Category.sets [.openPunctuation, .closePunctuation, .initialPunctuation,
     .finalPunctuation]).union (codes
     [(0x22, 0x22, 1), (0x27, 0x27, 1), (0x275B, 0x2760, 1), (0x2E00, 0x2E01, 1),
      (0x2E06, 0x2E08, 1), (0x2E0B, 0x2E0B, 1), (0x1F676, 0x1F678, 1)])),
   (["cr"], codes [(0xD, 0xD, 1)]),
   (["ex", "extend"], sentenceExtend),
   (["fo", "format"], formats),
   (["lf"], codes [(0xA, 0xA, 1)]),
   (["lo", "lower"], sentenceLower),
   (["nu", "numeric"], decimalDigits.union (codes [(0x66B, 0x66C, 1)])),
   (["le", "oletter"], (alphabetic.union (codes [(0x5F3, 0x5F3, 1), (0x70F, 0x70F, 1)])).minus
     (.unions [sentenceLower, sentenceUpper, sentenceExtend])),
   (["sc", "scontinue"], codes
     [(0x2C, 0x2D, 1), (0x3A, 0x3B, 1), (0x37E, 0x37E, 1), (0x55D, 0x55D, 1), (0x60C, 0x60D, 1),
      (0x7F8, 0x7F8, 1), (0x1802, 0x1802, 1), (0x1808, 0x1808, 1), (0x2013, 0x2014, 1),
      (0x3001, 0x3001, 1), (0xFE10, 0xFE11, 1), (0xFE13, 0xFE14, 1), (0xFE31, 0xFE32, 1),
      (0xFE50, 0xFE51, 1), (0xFE54, 0xFE55, 1), (0xFE58, 0xFE58, 1), (0xFE63, 0xFE63, 1),
      (0xFF0C, 0xFF0D, 1), (0xFF1A, 0xFF1B, 1), (0xFF64, 0xFF64, 1)]),
   (["se", "sep"], codes [(0x85, 0x85, 1), (0x2028, 0x2029, 1)]),
   (["sp"], codes
     [(0x9, 0x9, 1), (0xB, 0xC, 1), (0x20, 0x20, 1), (0xA0, 0xA0, 1), (0x1680, 0x1680, 1),
      (0x2000, 0x200A, 1), (0x202F, 0x202F, 1), (0x205F, 0x205F, 1), (0x3000, 0x3000, 1)]),
   (["st", "sterm"], (codes sentenceTerminal).minus (codes fullStops)),
   (["up", "upper"], sentenceUpper)]

end AnnotationIndex.Text.Boundary
