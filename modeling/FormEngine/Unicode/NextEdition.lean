import FormEngine.Unicode.Property.Letters
import FormEngine.Unicode.Property.Marks

/-!
# The next edition

The tables of this library describe the sixteenth edition of the standard, which patterns follow.
Quoted texts and the names of groups follow the seventeenth, which adds the characters listed here.
In a quoted text quotes, backslashes and everything without a shape of its own are escaped.
-/

namespace FormEngine.Unicode

namespace NextEdition

/-- New alphabetic characters. -/
def alphabetic : Ranges := .ofText
  "88F C5C CDC A7CE-A7CF A7D2 A7D4 A7F1 10940-10959 10EC5-10EC7 10EFA-10EFB 11B60-11B67 11DB0-11DDB
   16EA0-16EB8 16EBB-16ED3 16FF2-16FF6 187F8-187FF 18D09-18D1E 18D80-18DF2 1E6C0-1E6DE 1E6E0-1E6F5
   1E6FE-1E6FF 2B73A-2B73F 2CEA2-2CEAD 323B0-33479"

/-- New digits and numbers. -/
def numbers : Ranges := .ofText
  "11DE0-11DE9 16FF4-16FF6"

/-- New characters with a shape of their own. -/
def visible : Ranges := .ofText
  "88F C5C CDC 1ACF-1ADD 1AE0-1AEB 20C1 2B96 A7CE-A7CF A7D2 A7D4 A7F1 FBC3-FBD2 FD90-FD91 FDC8-FDCE
   10940-10959 10EC5-10EC7 10ED0-10ED8 10EFA-10EFB 11B60-11B67 11DB0-11DDB 11DE0-11DE9 16EA0-16EB8
   16EBB-16ED3 16FF2-16FF6 187F8-187FF 18D09-18D1E 18D80-18DF2 1CCFA-1CCFC 1CEBA-1CED0 1CEE0-1CEF0
   1E6C0-1E6DE 1E6E0-1E6F5 1E6FE-1E6FF 1F6D8 1F777-1F77A 1F8D0-1F8D8 1FA54-1FA57 1FA8A 1FA8E 1FAC8
   1FACD 1FAEA 1FAEF 1FBFA 2B73A-2B73F 2CEA2-2CEAD 323B0-33479"

/-- New marks. -/
def marks : Ranges := .ofText
  "1ACF-1ADD 1AE0-1AEB 10EFA-10EFB 11B60-11B67 1E6E3 1E6E6 1E6EE-1E6EF 1E6F5"

/-- New characters that extend a cluster. -/
def clusterExtend : Ranges := .ofText
  "1ACF-1ADD 1AE0-1AEB 10EFA-10EFB 11B60 11B62-11B64 11B66 1E6E3 1E6E6 1E6EE-1E6EF 1E6F5"

end NextEdition

/-- Characters that can change the one before them. -/
def marks : Ranges := Category.union [.nonspacingMark, .spacingMark, .enclosingMark]

def isMark (c : Char) : Bool := marks.contains c || NextEdition.marks.contains c

def isAlphabetic (c : Char) : Bool := alphabetic.contains c || NextEdition.alphabetic.contains c

/-- Characters with the property Number. -/
def numbers : Ranges := Category.union [.decimalNumber, .letterNumber, .otherNumber]

def isNumeric (c : Char) : Bool := numbers.contains c || NextEdition.numbers.contains c

/-- Assigned characters that are neither separators nor controls nor private. -/
def visible : Ranges :=
  assigned.difference <| Category.union
    [.spaceSeparator, .lineSeparator, .paragraphSeparator, .control, .format, .privateUse]

/-- Characters with a shape of their own, and the space. -/
def isPrintable (c : Char) : Bool :=
  c == ' ' || visible.contains c || NextEdition.visible.contains c

/-- Characters other than letters that extend the cluster before them. -/
def isExtendingMark (c : Char) : Bool :=
  (clusterExtend.contains c && !letters.contains c) || NextEdition.clusterExtend.contains c

/-! ## Quoted texts -/

/-- Hexadecimal digits of a number, lower case. -/
def hexText (n : Nat) : String := String.ofList (Nat.toDigits 16 n)

/-- A character inside quotes: letters for the usual controls, a code point for marks that
extend a cluster and for what cannot be printed. -/
def quotedChar (c : Char) : String :=
  if c = '"' then "\\\""
  else if c = '\\' then "\\\\"
  else if c = '\n' then "\\n"
  else if c = '\r' then "\\r"
  else if c = '\t' then "\\t"
  else if c.toNat = 0 then "\\0"
  else if isExtendingMark c || !isPrintable c then "\\u\x7b" ++ hexText c.toNat ++ "\x7d"
  else String.singleton c

/-- A text in quotes. -/
def quoted (s : String) : String := "\"" ++ String.join (s.toList.map quotedChar) ++ "\""

end FormEngine.Unicode
