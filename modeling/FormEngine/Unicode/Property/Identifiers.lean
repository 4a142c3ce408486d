import FormEngine.Unicode.Property.Letters

/-!
# Identifiers

Characters of identifiers and words, and the syntax around them.
-/

namespace FormEngine.Unicode

/-- Characters that begin an identifier and are neither letters nor letter numbers. -/
def otherIdStart : Ranges := .ofText
  "1885-1886 2118 212E 309B-309C"

/-- Letters that do not begin an identifier. -/
def notIdStart : Ranges := .ofText
  "2E2F"

/-- Characters that begin an identifier. -/
def idStart : Ranges :=
  (Ranges.unionAll [letters, Category.letterNumberRanges, otherIdStart]).difference notIdStart

/-- Further characters of identifiers, of no category of which all are. -/
def otherIdContinue : Ranges := .ofText
  "B7 387 1369-1371 19DA 200C-200D 30FB FF65"

/-- Characters of identifiers. -/
def idContinue : Ranges :=
  .unionAll [idStart, otherIdContinue,
    Category.union [.nonspacingMark, .spacingMark, .decimalNumber, .connectorPunctuation]]

/-- Characters that begin an identifier, but whose variants do not. -/
def unstableStart : Ranges := .ofText
  "37A E33 EB3 309B-309C FC5E-FC63 FDFA-FDFB FE70 FE72 FE74 FE76 FE78 FE7A FE7C FE7E FF9E-FF9F"

/-- Characters of identifiers whose variants are none. -/
def unstableContinue : Ranges := .ofText
  "37A 309B-309C FC5E-FC63 FDFA-FDFB FE70 FE72 FE74 FE76 FE78 FE7A FE7C FE7E"

def xidStart : Ranges := idStart.difference unstableStart

def xidContinue : Ranges := idContinue.difference unstableContinue

/-- Mathematical signs that some identifiers begin with. -/
def compatMathStart : Ranges := .ofText
  "2202 2207 221E 1D6C1 1D6DB 1D6FB 1D715 1D735 1D74F 1D76F 1D789 1D7A9 1D7C3"

/-- Mathematical signs that some identifiers hold. -/
def compatMathContinue : Ranges := .ofText
  "B2-B3 B9 2070 2074-207E 2080-208E 2202 2207 221E 1D6C1 1D6DB 1D6FB 1D715 1D735 1D74F 1D76F 1D789
   1D7A9 1D7C3"

/-- Characters reserved for the syntax of patterns. -/
def patternSyntax : Ranges := .ofText
  "21-2F 3A-40 5B-5E 60 7B-7E A1-A7 A9 AB-AC AE B0-B1 B6 BB BF D7 F7 2010-2027 2030-203E 2041-2053
   2055-205E 2190-245F 2500-2775 2794-2BFF 2E00-2E7F 3001-3003 3008-3020 3030 FD3E-FD3F FE45-FE46"

/-- Blanks of patterns. -/
def patternBlanks : Ranges := .ofText
  "9-D 20 85 200E-200F 2028-2029"

/-- Characters with the property White_Space. -/
def blanks : Ranges := .ofText
  "9-D 20 85 A0 1680 2000-200A 2028-2029 202F 205F 3000"

/-- The two invisible characters that ask their neighbours to join or not to join. -/
def joinControls : Ranges := .ofText
  "200C-200D"

/-- Characters of words: alphabetic ones, marks, decimal digits, connectors and join controls. -/
def wordCharacters : Ranges :=
  .unionAll [alphabetic, joinControls,
    Category.union [.nonspacingMark, .spacingMark, .enclosingMark, .decimalNumber,
      .connectorPunctuation]]

def asciiHexDigits : Ranges := .ofText "30-39 41-46 61-66"

/-- Hexadecimal digits, the wide ones among them. -/
def hexDigits : Ranges := .ofText "30-39 41-46 61-66 FF10-FF19 FF21-FF26 FF41-FF46"

end FormEngine.Unicode
