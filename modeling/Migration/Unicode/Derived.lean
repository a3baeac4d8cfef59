import Migration.Unicode.Category
import Migration.Unicode.Contributory
import Migration.Unicode.Emoji
import Migration.Unicode.Folding
import Migration.Text.Blank

/-!
# Derived properties

The yes-or-no properties that follow from categories, from other properties and from letter case,
and a table of all yes-or-no properties by name.
-/

namespace Migration.Unicode

open Category

def whiteSpace : CodeSet :=
  .ofRanges Text.blankRanges

def alphabetic : CodeSet :=
  letter ∪ letterNumber ∪ otherAlphabetic

def lowercase : CodeSet :=
  lowercaseLetter ∪ otherLowercase

def uppercase : CodeSet :=
  uppercaseLetter ∪ otherUppercase

def mathematical : CodeSet :=
  mathSymbol ∪ otherMath

def cased : CodeSet :=
  lowercase ∪ uppercase ∪ titlecaseLetter

/-- What is passed over where the case of the letters around a place matters. -/
def caseIgnorable : CodeSet :=
  .union
    [nonspacingMark, enclosingMark, format, modifierLetter, modifierSymbol,
      .ofRanges
        [(0x27, 0x27), (0x2E, 0x2E), (0x3A, 0x3A), (0xB7, 0xB7), (0x387, 0x387), (0x55F, 0x55F),
          (0x5F4, 0x5F4), (0x2018, 0x2019), (0x2024, 0x2024), (0x2027, 0x2027), (0xFE13, 0xFE13),
          (0xFE52, 0xFE52), (0xFE55, 0xFE55), (0xFF07, 0xFF07), (0xFF0E, 0xFF0E),
          (0xFF1A, 0xFF1A)]]

/-! ## Identifiers -/

/-- What has a meaning of its own in the texts of patterns. -/
def reservedInPatterns : CodeSet :=
  patternSyntax ∪ patternWhiteSpace

def idStart : CodeSet :=
  (letter ∪ letterNumber ∪ otherIdStart) \ reservedInPatterns

def idContinue : CodeSet :=
  .union [idStart, nonspacingMark, spacingMark, decimalNumber, connectorPunctuation,
    otherIdContinue] \ reservedInPatterns

/-- The marks whose compatibility form begins with a blank, so that it continues no identifier. -/
def spacedForms : CodeSet :=
  .union
    [.ofRanges
      [(0x37A, 0x37A), (0x309B, 0x309C), (0xFC5E, 0xFC63), (0xFDFA, 0xFDFB), (0xFE70, 0xFE70)],
      .ofList [0xFE72, 0xFE74, 0xFE76, 0xFE78, 0xFE7A, 0xFE7C, 0xFE7E]]

/-- The characters that begin an identifier, and whose compatibility form does so too. -/
def xidStart : CodeSet :=
  idStart \ (spacedForms ∪ .ofRanges [(0xE33, 0xE33), (0xEB3, 0xEB3), (0xFF9E, 0xFF9F)])

/-- The characters that continue an identifier, and whose compatibility form does so too. -/
def xidContinue : CodeSet :=
  idContinue \ spacedForms

def idCompatMathContinue : CodeSet :=
  idCompatMathStart ∪ superscript

/-! ## Display -/

/-- The marks of interlinear annotation, and the controls that join hieroglyphs. -/
def visibleFormat : CodeSet :=
  .ofRanges [(0xFFF9, 0xFFFB), (0x13430, 0x13440)]

def defaultIgnorable : CodeSet :=
  .union [otherDefaultIgnorable, format, variationSelector] \
    .union [whiteSpace, visibleFormat, prependedConcatenationMark]

def graphemeExtend : CodeSet :=
  enclosingMark ∪ nonspacingMark ∪ otherGraphemeExtend

def graphemeBase : CodeSet :=
  assigned \
    .union [control, format, privateUse, lineSeparator, paragraphSeparator, graphemeExtend]

/-! ## Changes of case -/

def changesWhenLowercased : CodeSet :=
  ((uppercase ∪ titlecaseLetter) ∩ Folding.cased) ∪ .singleton 0x130

/-- The lowercase letters whose uppercase form is more than one character. -/
def longWhenUppercased : CodeSet :=
  .ofRanges
    [(0x149, 0x149), (0x1F0, 0x1F0), (0x587, 0x587), (0x1E96, 0x1E9A), (0x1F50, 0x1F50),
      (0x1F52, 0x1F52), (0x1F54, 0x1F54), (0x1F56, 0x1F56), (0x1FB2, 0x1FB2), (0x1FB4, 0x1FB4),
      (0x1FB6, 0x1FB7), (0x1FC2, 0x1FC2), (0x1FC4, 0x1FC4), (0x1FC6, 0x1FC7), (0x1FD2, 0x1FD2),
      (0x1FD6, 0x1FD7), (0x1FE2, 0x1FE2), (0x1FE4, 0x1FE4), (0x1FE6, 0x1FE7), (0x1FF2, 0x1FF2),
      (0x1FF4, 0x1FF4), (0x1FF6, 0x1FF7), (0xFB00, 0xFB04), (0xFB13, 0xFB17)]

def changesWhenUppercased : CodeSet :=
  ((lowercase ∪ titlecaseLetter) ∩ Folding.cased) ∪ .singleton 0x131 ∪ longWhenUppercased

/-- The letters that are their own titlecase form, although they have an uppercase form. -/
def keptWhenTitlecased : CodeSet :=
  .ofRanges
    [(0x1C5, 0x1C5), (0x1C8, 0x1C8), (0x1CB, 0x1CB), (0x1F2, 0x1F2), (0x10D0, 0x10FA),
      (0x10FD, 0x10FF), (0x1F88, 0x1F8F), (0x1F98, 0x1F9F), (0x1FA8, 0x1FAF), (0x1FBC, 0x1FBC),
      (0x1FCC, 0x1FCC), (0x1FFC, 0x1FFC)]

def changesWhenTitlecased : CodeSet :=
  (changesWhenUppercased ∪ .ofList [0x1C4, 0x1C7, 0x1CA, 0x1F1]) \ keptWhenTitlecased

/-- The lowercase letters that are folded to others. -/
def foldedLowercase : CodeSet :=
  .ofRanges
    [(0xB5, 0xB5), (0xDF, 0xDF), (0x149, 0x149), (0x17F, 0x17F), (0x345, 0x345), (0x3C2, 0x3C2),
      (0x3D0, 0x3D1), (0x3D5, 0x3D6), (0x3F0, 0x3F1), (0x3F5, 0x3F5), (0x587, 0x587),
      (0x13F8, 0x13FD), (0x1C80, 0x1C88), (0x1E9A, 0x1E9B), (0x1F80, 0x1F87), (0x1F90, 0x1F97),
      (0x1FA0, 0x1FA7), (0x1FB2, 0x1FB4), (0x1FB7, 0x1FB7), (0x1FC2, 0x1FC4), (0x1FC7, 0x1FC7),
      (0x1FF2, 0x1FF4), (0x1FF7, 0x1FF7), (0xAB70, 0xABBF), (0xFB00, 0xFB06), (0xFB13, 0xFB17)]

/-- The uppercase letters to which lowercase letters are folded. -/
def foldedTo : CodeSet :=
  .range 0x13A0 0x13F5

def changesWhenCasefolded : CodeSet :=
  (changesWhenLowercased ∪ foldedLowercase) \ foldedTo

def changesWhenCasemapped : CodeSet :=
  changesWhenLowercased ∪ changesWhenUppercased ∪ changesWhenTitlecased

/-! ## Names -/

/-- The yes-or-no properties. -/
def binaryProperties : List NamedSet :=
  [⟨["asciihexdigit", "ahex"], asciiHexDigit⟩,
    ⟨["alphabetic", "alpha"], alphabetic⟩,
    ⟨["bidicontrol", "bidic"], bidiControl⟩,
    ⟨["bidimirrored", "bidim"], bidiMirrored⟩,
    ⟨["cased"], cased⟩,
    ⟨["caseignorable", "ci"], caseIgnorable⟩,
    ⟨["changeswhencasefolded", "cwcf"], changesWhenCasefolded⟩,
    ⟨["changeswhencasemapped", "cwcm"], changesWhenCasemapped⟩,
    ⟨["changeswhenlowercased", "cwl"], changesWhenLowercased⟩,
    ⟨["changeswhentitlecased", "cwt"], changesWhenTitlecased⟩,
    ⟨["changeswhenuppercased", "cwu"], changesWhenUppercased⟩,
    ⟨["dash"], dash⟩,
    ⟨["defaultignorablecodepoint", "di"], defaultIgnorable⟩,
    ⟨["deprecated", "dep"], deprecated⟩,
    ⟨["diacritic", "dia"], diacritic⟩,
    ⟨["emojimodifierbase", "ebase"], emojiModifierBase⟩,
    ⟨["emojicomponent", "ecomp"], emojiComponent⟩,
    ⟨["emojimodifier", "emod"], emojiModifier⟩,
    ⟨["emoji"], emoji⟩,
    ⟨["emojipresentation", "epres"], emojiPresentation⟩,
    ⟨["extender", "ext"], extender⟩,
    ⟨["extendedpictographic", "extpict"], extendedPictographic⟩,
    ⟨["graphemebase", "grbase"], graphemeBase⟩,
    ⟨["graphemeextend", "grext"], graphemeExtend⟩,
    ⟨["graphemelink", "grlink"], graphemeLink⟩,
    ⟨["hexdigit", "hex"], hexDigit⟩,
    ⟨["hyphen"], hyphen⟩,
    ⟨["idcontinue", "idc"], idContinue⟩,
    ⟨["idcompatmathcontinue"], idCompatMathContinue⟩,
    ⟨["idcompatmathstart"], idCompatMathStart⟩,
    ⟨["ideographic", "ideo"], ideographic⟩,
    ⟨["idstart", "ids"], idStart⟩,
    ⟨["idsbinaryoperator", "idsb"], idsBinaryOperator⟩,
    ⟨["idstrinaryoperator", "idst"], idsTrinaryOperator⟩,
    ⟨["idsunaryoperator", "idsu"], idsUnaryOperator⟩,
    ⟨["joincontrol", "joinc"], joinControl⟩,
    ⟨["logicalorderexception", "loe"], logicalOrderException⟩,
    ⟨["lowercase", "lower"], lowercase⟩,
    ⟨["math"], mathematical⟩,
    ⟨["modifiercombiningmark", "mcm"], modifierCombiningMark⟩,
    ⟨["noncharactercodepoint", "nchar"], noncharacter⟩,
    ⟨["otheralphabetic", "oalpha"], otherAlphabetic⟩,
    ⟨["otherdefaultignorablecodepoint", "odi"], otherDefaultIgnorable⟩,
    ⟨["othergraphemeextend", "ogrext"], otherGraphemeExtend⟩,
    ⟨["otheridcontinue", "oidc"], otherIdContinue⟩,
    ⟨["otheridstart", "oids"], otherIdStart⟩,
    ⟨["otherlowercase", "olower"], otherLowercase⟩,
    ⟨["othermath", "omath"], otherMath⟩,
    ⟨["otheruppercase", "oupper"], otherUppercase⟩,
    ⟨["patternsyntax", "patsyn"], patternSyntax⟩,
    ⟨["patternwhitespace", "patws"], patternWhiteSpace⟩,
    ⟨["prependedconcatenationmark", "pcm"], prependedConcatenationMark⟩,
    ⟨["quotationmark", "qmark"], quotationMark⟩,
    ⟨["radical"], radical⟩,
    ⟨["regionalindicator", "ri"], regionalIndicator⟩,
    ⟨["sentenceterminal", "sterm"], sentenceTerminal⟩,
    ⟨["softdotted", "sd"], softDotted⟩,
    ⟨["terminalpunctuation", "term"], terminalPunctuation⟩,
    ⟨["unifiedideograph", "uideo"], unifiedIdeograph⟩,
    ⟨["uppercase", "upper"], uppercase⟩,
    ⟨["variationselector", "vs"], variationSelector⟩,
    ⟨["whitespace", "space", "wspace"], whiteSpace⟩,
    ⟨["xidcontinue", "xidc"], xidContinue⟩,
    ⟨["xidstart", "xids"], xidStart⟩]

/-! ## The classes that a letter names -/

/-- The characters of words: letters with their marks, digits, connectors and joiners. -/
def wordCharacter : CodeSet :=
  .union [alphabetic, mark, decimalNumber, connectorPunctuation, joinControl]

end Migration.Unicode
