import FormEngine.Unicode.Property.Identifiers
import FormEngine.Unicode.Property.Marks
import FormEngine.Unicode.Script

/-!
# Boundaries in texts

The classes of characters by which a text is cut into clusters, words and sentences.
-/

namespace FormEngine.Unicode

/-- Characters that stay with the one before them. -/
def attached : Ranges := clusterExtend.union Category.spacingMarkRanges

/-- Numbers and signs that enclose them. -/
def numeric : Ranges :=
  Category.decimalNumberRanges.union (.ofText "600-605 66B 6DD 890-891 8E2 19DA 110BD 110CD")

/-! ## Clusters -/

namespace Cluster

/-- Ends of lines, controls and whatever else stands alone. -/
def control : Ranges :=
  .difference
    (.unionAll [Category.controlRanges, Category.formatRanges, Category.lineSeparatorRanges,
      Category.paragraphSeparatorRanges, defaultIgnorable.difference assigned])
    (.unionAll [.ofText "A D", joinControls, leadingMarks, clusterExtend])

def extend : Ranges :=
  (clusterExtend.union emojiModifiers).difference (.ofText "200D")

/-- Letters that belong to the one after them. -/
def leadingLetters : Ranges := .ofText
  "D4E 111C2-111C3 113D1 1193F 11941 11A3A 11A84-11A89 11D46 11F02"

/-- Characters that stay with the one after them. -/
def leading : Ranges := leadingMarks.union leadingLetters

/-- Spacing marks that do not stay with the character before them. -/
def looseMarks : Ranges := .ofText
  "102B-102C 1038 1062-1064 1067-106D 1083 1087-108C 108F 109A-109C 1A61 1A63-1A64 AA7B AA7D
   11720-11721"

/-- Marks of their own width that stay with the character before them. -/
def spacing : Ranges :=
  (Category.spacingMarkRanges.union (.ofText "E33 EB3")).difference
    (extend.union looseMarks)

/-- Letters that begin a syllable of Hangul. -/
def hangulLead : Ranges := .ofText
  "1100-115F A960-A97C"

/-- Letters for the vowel of a syllable. -/
def hangulVowel : Ranges := .ofText
  "1160-11A7 D7B0-D7C6 16D63 16D67-16D6A"

/-- Letters that end a syllable. -/
def hangulTail : Ranges := .ofText
  "11A8-11FF D7CB-D7FB"

/-- Syllables without an end letter. -/
def hangulOpen : Ranges :=
  .ofSorted ((List.range 399).map fun k => (0xAC00 + 28 * k, 0xAC00 + 28 * k))

/-- Syllables with an end letter. -/
def hangulClosed : Ranges := (Ranges.ofText "AC00-D7A3").difference hangulOpen

/-- The characters of a class, by its short or its long name. -/
def class? : String → Option Ranges
  | "cn" | "control" => some control
  | "cr" => some (.ofText "D")
  | "ex" | "extend" => some extend
  | "l" => some hangulLead
  | "lf" => some (.ofText "A")
  | "lv" => some hangulOpen
  | "lvt" => some hangulClosed
  | "pp" | "prepend" => some leading
  | "ri" | "regionalindicator" => some regionalIndicators
  | "sm" | "spacingmark" => some spacing
  | "t" => some hangulTail
  | "v" => some hangulVowel
  | "zwj" => some (.ofText "200D")
  | _ => none

end Cluster

/-! ## Words -/

namespace Word

def extend : Ranges := (attached.union emojiModifiers).difference (.ofText "200D")

/-- Letters of Hebrew. -/
def hebrew : Ranges := .ofText
  "5D0-5EA 5EF-5F2 FB1D FB1F-FB28 FB2A-FB36 FB38-FB3C FB3E FB40-FB41 FB43-FB44 FB46-FB4F"

/-- Letters of Katakana, and the marks that lengthen or repeat them. -/
def katakana : Ranges := .ofText
  "3031-3035 309B-309C 30A0-30FA 30FC-30FF 31F0-31FF 32D0-32FE 3300-3357 FF66-FF9D 1AFF0-1AFF3
   1AFF5-1AFFB 1AFFD-1AFFE 1B000 1B120-1B122 1B155 1B164-1B167"

/-- Letters of languages that are written without spaces. -/
def withoutSpaces : Ranges := .ofText
  "E01-E30 E32-E33 E40-E46 E81-E82 E84 E86-E8A E8C-EA3 EA5 EA7-EB0 EB2-EB3 EBD EC0-EC4 EC6 EDC-EDF
   1000-102A 103F 1050-1055 105A-105D 1061 1065-1066 106E-1070 1075-1081 108E 1780-17B3 17D7 17DC
   1950-196D 1970-1974 1980-19AB 19B0-19C9 1A20-1A54 1AA7 A9E0-A9E4 A9E6-A9EF A9FA-A9FE AA60-AA76
   AA7A AA7E-AAAF AAB1 AAB5-AAB6 AAB9-AABD AAC0 AAC2 AADB-AADD 11700-1171A 11740-11746"

/-- Signs that count as letters. -/
def letterLike : Ranges := .ofText
  "B8 2C2-2C5 2D2-2D7 2DE-2DF 2E5-2EB 2ED 2EF-2FF 55A-55C 55E 58A 5F3 70F A708-A716 A720-A721
   A789-A78A AB5B"

def letter : Ranges :=
  .union letterLike
    (alphabetic.difference
      (.unionAll [extend, ideographs, katakana, hebrew, Script.hiragana, numeric,
        withoutSpaces]))

/-- Invisible characters that stay with the one before them. -/
def format : Ranges :=
  Category.formatRanges.difference
    (.unionAll [joinControls, leadingMarks, extend, .ofText "200B"])

/-- The characters of a class, by its short or its long name. -/
def class? : String → Option Ranges
  | "le" | "aletter" => some letter
  | "cr" => some (.ofText "D")
  | "dq" | "doublequote" => some (.ofText "22")
  | "ex" | "extendnumlet" => some (.ofText "5F 202F 203F-2040 2054 FE33-FE34 FE4D-FE4F FF3F")
  | "extend" => some extend
  | "fo" | "format" => some format
  | "hl" | "hebrewletter" => some hebrew
  | "ka" | "katakana" => some katakana
  | "lf" => some (.ofText "A")
  | "mb" | "midnumlet" => some (.ofText "2E 2018-2019 2024 FE52 FF07 FF0E")
  | "ml" | "midletter" => some (.ofText "3A B7 387 55F 5F4 2027 FE13 FE55 FF1A")
  | "mn" | "midnum" =>
    some (.ofText "2C 3B 37E 589 60C-60D 66C 7F8 2044 FE10 FE14 FE50 FE54 FF0C FF1B")
  | "nl" | "newline" => some (.ofText "B-C 85 2028-2029")
  | "nu" | "numeric" => some numeric
  | "ri" | "regionalindicator" => some regionalIndicators
  | "sq" | "singlequote" => some (.ofText "27")
  | "wsegspace" => some (.ofText "20 1680 2000-2006 2008-200A 205F 3000")
  | "zwj" => some (.ofText "200D")
  | _ => none

end Word

/-! ## Sentences -/

namespace Sentence

def extend : Ranges := attached.union (.ofText "200D")

/-- Small letters, but for those of Georgian. -/
def lower : Ranges := lowercase.difference (extend.union (.ofText "10D0-10FA 10FD-10FF"))

/-- Capital letters, but for those of Georgian. -/
def upper : Ranges :=
  (uppercase.union Category.titlecaseLetterRanges).difference (.ofText "1C90-1CBA 1CBD-1CBF")

/-- Letters without case. -/
def letter : Ranges :=
  (alphabetic.union (.ofText "5F3")).difference (.unionAll [lower, upper, extend])

/-- Quotation marks that do not say on which side they stand. -/
def quotes : Ranges := .ofText
  "22 27 275B-2760 2E00-2E01 2E06-2E08 2E0B 1F676-1F678"

/-- Brackets and quotation marks. -/
def close : Ranges :=
  .union quotes
    (Category.union [.openPunctuation, .closePunctuation, .initialPunctuation, .finalPunctuation])

/-- Points, which need not end a sentence. -/
def point : Ranges := .ofText "2E 2024 FE52 FF0E"

/-- Marks after which the sentence goes on. -/
def goesOn : Ranges := .ofText
  "2C-2D 3A-3B 37E 55D 60C-60D 7F8 1802 1808 2013-2014 3001 FE10-FE11 FE13-FE14 FE31-FE32 FE50-FE51
   FE54-FE55 FE58 FE63 FF0C-FF0D FF1A-FF1B FF64"

/-- Invisible characters that stay with the one before them. -/
def format : Ranges :=
  (Category.formatRanges.difference (.unionAll [joinControls, leadingMarks, extend])).union
    (.ofText "70F")

def separators : Ranges := .ofText "85 2028-2029"

/-- The characters of a class, by its short or its long name. -/
def class? : String → Option Ranges
  | "at" | "aterm" => some point
  | "cl" | "close" => some close
  | "cr" => some (.ofText "D")
  | "ex" | "extend" => some extend
  | "fo" | "format" => some format
  | "le" | "oletter" => some letter
  | "lf" => some (.ofText "A")
  | "lo" | "lower" => some lower
  | "nu" | "numeric" => some (numeric.union (.ofText "66C"))
  | "sc" | "scontinue" => some goesOn
  | "se" | "sep" => some separators
  | "sp" => some (blanks.difference (separators.union (.ofText "A D")))
  | "st" | "sterm" => some (sentenceEnds.difference point)
  | "up" | "upper" => some upper
  | _ => none

end Sentence

end FormEngine.Unicode
