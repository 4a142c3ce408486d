import FormEngine.Pattern.Basic
import FormEngine.Unicode.Age
import FormEngine.Unicode.Boundary

/-!
# Names of properties

The sets that a class such as `\p{Greek}` names. Case, blanks, dashes, underscores and a leading
"is" do not count. A name stands for a binary property, a general category or a script, and
`name=value` picks the characters with a value of a property.
-/

namespace FormEngine.Pattern

open Unicode (Category Ranges)

namespace Property

/-- A name without what does not count. -/
def normalName (name : List Char) : String :=
  let (marked, body) := match name with
    | i :: s :: rest =>
      if i.toLower = 'i' ∧ s.toLower = 's' then (true, rest) else (false, name)
    | _ => (false, name)
  let kept := body.filterMap fun c =>
    if c.toNat < 128 && c != ' ' && c != '_' && c != '-' then some c.toLower else none
  if marked ∧ kept = ['c'] then "isc" else String.ofList kept

/-- Whether a table's name is the one that a class writes. -/
def named (normal tableName : String) : Bool := normalName tableName.toList == normal

/-! ## Categories and scripts -/

/-- Groups of general categories, and second names of some categories. -/
def group? : String → Option Ranges
  | "any" => some .all
  | "assigned" => some Unicode.assigned
  | "ascii" => some (.ofText "0-7F")
  | "l" | "letter" => some Unicode.letters
  | "lc" | "casedletter" =>
    some (Category.union [.uppercaseLetter, .lowercaseLetter, .titlecaseLetter])
  | "m" | "mark" | "combiningmark" =>
    some (Category.union [.nonspacingMark, .spacingMark, .enclosingMark])
  | "n" | "number" => some (Category.union [.decimalNumber, .letterNumber, .otherNumber])
  | "p" | "punctuation" | "punct" =>
    some (Category.union [.connectorPunctuation, .dashPunctuation, .openPunctuation,
      .closePunctuation, .initialPunctuation, .finalPunctuation, .otherPunctuation])
  | "s" | "symbol" =>
    some (Category.union [.mathSymbol, .currencySymbol, .modifierSymbol, .otherSymbol])
  | "z" | "separator" =>
    some (Category.union [.spaceSeparator, .lineSeparator, .paragraphSeparator])
  | "c" | "other" =>
    some (Unicode.assigned.complement.union (Category.union [.control, .format, .privateUse]))
  | "cn" | "unassigned" => some Unicode.assigned.complement
  | "digit" => some Category.decimalNumberRanges
  | "cntrl" => some Category.controlRanges
  | _ => none

/-- A general category or a group of them. -/
def category? (normal : String) : Option Ranges :=
  match group? normal with
  | some s => some s
  | none =>
    (Category.all.find? fun c => named normal c.short || named normal c.long).map (·.ranges)

def script? (normal : String) : Option Unicode.Script :=
  Unicode.Script.all.find? fun s => s.names.any (named normal)

/-! ## Binary properties -/

/-- Properties of letters. -/
def ofLetters? : String → Option Ranges
  | "alphabetic" | "alpha" => some Unicode.alphabetic
  | "lowercase" | "lower" => some Unicode.lowercase
  | "uppercase" | "upper" => some Unicode.uppercase
  | "cased" => some Unicode.cased
  | "caseignorable" | "ci" => some Unicode.caseIgnorable
  | "changeswhencasefolded" | "cwcf" => some Unicode.foldedDiffers
  | "changeswhencasemapped" | "cwcm" => some Unicode.caseDiffers
  | "changeswhenlowercased" | "cwl" => some Unicode.lowercasedDiffers
  | "changeswhentitlecased" | "cwt" => some Unicode.titlecasedDiffers
  | "changeswhenuppercased" | "cwu" => some Unicode.uppercasedDiffers
  | "softdotted" | "sd" => some Unicode.softDotted
  | "ideographic" | "ideo" => some Unicode.ideographs
  | "unifiedideograph" | "uideo" => some Unicode.unifiedIdeographs
  | "radical" => some Unicode.radicals
  | "idsbinaryoperator" | "idsb" => some Unicode.binaryDescriptions
  | "idstrinaryoperator" | "idst" => some Unicode.trinaryDescriptions
  | "idsunaryoperator" | "idsu" => some Unicode.unaryDescriptions
  | "otheralphabetic" | "oalpha" => some Unicode.otherAlphabetic
  | "otherlowercase" | "olower" => some Unicode.otherLowercase
  | "otheruppercase" | "oupper" => some Unicode.otherUppercase
  | _ => none

/-- Properties of identifiers and of patterns. -/
def ofIdentifiers? : String → Option Ranges
  | "idstart" | "ids" => some Unicode.idStart
  | "idcontinue" | "idc" => some Unicode.idContinue
  | "xidstart" | "xids" => some Unicode.xidStart
  | "xidcontinue" | "xidc" => some Unicode.xidContinue
  | "otheridstart" | "oids" => some Unicode.otherIdStart
  | "otheridcontinue" | "oidc" => some Unicode.otherIdContinue
  | "idcompatmathstart" => some Unicode.compatMathStart
  | "idcompatmathcontinue" => some Unicode.compatMathContinue
  | "patternsyntax" | "patsyn" => some Unicode.patternSyntax
  | "patternwhitespace" | "patws" => some Unicode.patternBlanks
  | "whitespace" | "wspace" | "space" => some Unicode.blanks
  | "joincontrol" | "joinc" => some Unicode.joinControls
  | "asciihexdigit" | "ahex" => some Unicode.asciiHexDigits
  | "hexdigit" | "hex" => some Unicode.hexDigits
  | _ => none

/-- Properties of punctuation, symbols and pictures. -/
def ofPunctuation? : String → Option Ranges
  | "dash" => some Unicode.dashes
  | "hyphen" => some Unicode.hyphens
  | "quotationmark" | "qmark" => some Unicode.quotationMarks
  | "sentenceterminal" | "sterm" => some Unicode.sentenceEnds
  | "terminalpunctuation" | "term" => some Unicode.terminalPunctuation
  | "math" => some Unicode.mathematical
  | "othermath" | "omath" => some Unicode.otherMath
  | "bidimirrored" | "bidim" => some Unicode.bidiMirrored
  | "bidicontrol" | "bidic" => some Unicode.bidiControls
  | "emoji" => some Unicode.emoji
  | "emojipresentation" | "epres" => some Unicode.emojiPresentation
  | "emojimodifier" | "emod" => some Unicode.emojiModifiers
  | "emojimodifierbase" | "ebase" => some Unicode.emojiModifierBases
  | "emojicomponent" | "ecomp" => some Unicode.emojiComponents
  | "extendedpictographic" | "extpict" => some Unicode.pictographs
  | "regionalindicator" | "ri" => some Unicode.regionalIndicators
  | _ => none

/-- Properties of marks and of characters that are not seen. -/
def ofMarks? : String → Option Ranges
  | "graphemeextend" | "grext" => some Unicode.clusterExtend
  | "graphemebase" | "grbase" => some Unicode.clusterBase
  | "graphemelink" | "grlink" => some Unicode.clusterLinks
  | "othergraphemeextend" | "ogrext" => some Unicode.otherExtenders
  | "diacritic" | "dia" => some Unicode.diacritics
  | "extender" | "ext" => some Unicode.extenders
  | "variationselector" | "vs" => some Unicode.variationSelectors
  | "modifiercombiningmark" | "mcm" => some Unicode.modifierMarks
  | "prependedconcatenationmark" | "pcm" => some Unicode.leadingMarks
  | "logicalorderexception" | "loe" => some Unicode.logicalOrderExceptions
  | "defaultignorablecodepoint" | "di" => some Unicode.defaultIgnorable
  | "otherdefaultignorablecodepoint" | "odi" => some Unicode.otherIgnorable
  | "deprecated" | "dep" => some Unicode.deprecated
  | "noncharactercodepoint" | "nchar" => some Unicode.noncharacters
  | _ => none

/-- A property that a character has or has not. -/
def binary? (normal : String) : Option Ranges :=
  (ofLetters? normal).or
    ((ofIdentifiers? normal).or ((ofPunctuation? normal).or (ofMarks? normal)))

/-! ## Classes -/

/-- The set of a single name. -/
def ofName? (name : List Char) : Option Ranges :=
  let normal := normalName name
  (binary? normal).or ((category? normal).or ((script? normal).map (·.own)))

/-- The characters of an edition and the ones before it, by its numbers. -/
def age? (normal : String) : Option Ranges :=
  (Unicode.Age.all.find? fun (major, minor, _) =>
    normal == toString major ++ "." ++ toString minor ||
      normal == "v" ++ toString major ++ toString minor).map fun (major, minor, _) =>
    Unicode.Age.upTo major minor

/-- The set of a value of a property. -/
def ofValue? (name value : List Char) : Option Ranges :=
  let normal := normalName value
  match normalName name with
  | "gc" | "generalcategory" => category? normal
  | "sc" | "script" => (script? normal).map (·.own)
  | "scx" | "scriptextensions" => (script? normal).map (·.extended)
  | "age" => age? normal
  | "gcb" | "graphemeclusterbreak" => Unicode.Cluster.class? normal
  | "wb" | "wordbreak" => Unicode.Word.class? normal
  | "sb" | "sentencebreak" => Unicode.Sentence.class? normal
  | _ => none

/-- What stands before and after the first occurrence of a character. -/
def cutAt? (mark : Char) : List Char → Option (List Char × List Char)
  | [] => none
  | c :: rest =>
    if c = mark then some ([], rest) else (cutAt? mark rest).map fun (a, b) => (c :: a, b)

/-- What stands before and after the first `!=`. -/
def cutAtDiffers? : List Char → Option (List Char × List Char)
  | '!' :: '=' :: rest => some ([], rest)
  | [] => none
  | c :: rest => (cutAtDiffers? rest).map fun (a, b) => (c :: a, b)

/-- The set of the text between the braces of a class, and whether the class is its complement. -/
def ofBraces? (text : List Char) : Option (Bool × Ranges) :=
  match cutAtDiffers? text with
  | some (name, value) => (ofValue? name value).map (true, ·)
  | none =>
    ((match (cutAt? ':' text).or (cutAt? '=' text) with
      | some (name, value) => ofValue? name value
      | none => ofName? text)).map (false, ·)

end Property

end FormEngine.Pattern
