import Rulebook.Unicode.Binary
import Rulebook.Unicode.Category

/-!
# Rulebook.Unicode.Derived

Properties that are true or false of a character and follow from others, and the names of all
properties of this kind.
-/

namespace Rulebook.Unicode.Derived

open CodeSet (unions)
open Binary Category

/-! ## Letters and case -/

/-- Lower-case letters and what looks like them. -/
def lowercase : CodeSet :=
  lowercaseLetter ∪ otherLowercase

/-- Upper-case letters and what looks like them. -/
def uppercase : CodeSet :=
  uppercaseLetter ∪ otherUppercase

/-- Letters of any case. -/
def cased : CodeSet :=
  unions [lowercase, uppercase, titlecaseLetter]

/-- Letters, and marks that stand for letters. -/
def alphabetic : CodeSet :=
  unions [letter, letterNumber, otherAlphabetic, otherLowercase, otherUppercase]

/-- Marks that a word can have inside, such as the apostrophe. -/
def innerMarks : CodeSet := .ofTable
  "27 2E 3A B7 387 55F 5F4 2018-2019 2024 2027 FE13 FE52 FE55 FF07 FF0E FF1A"

/-- What is passed over when the case of the letters around matters. -/
def caseIgnorable : CodeSet :=
  unions [nonspacingMark, enclosingMark, format, modifierLetter, modifierSymbol, innerMarks]

/-- What changes when its case is changed to any other. -/
def changesWhenCasemapped : CodeSet :=
  unions [changesWhenLowercased, changesWhenUppercased, changesWhenTitlecased]

/-- Symbols of mathematics and letters that are used as such. -/
def math : CodeSet :=
  mathSymbol ∪ otherMath

/-! ## Identifiers -/

/-- What identifiers start with. -/
def idStart : CodeSet :=
  unions [letter, letterNumber, otherIdStart] \ (patternSyntax ∪ patternWhiteSpace)

/-- What identifiers go on with. -/
def idContinue : CodeSet :=
  unions [idStart, nonspacingMark, spacingMark, decimalNumber, connectorPunctuation,
    otherIdContinue] \ (patternSyntax ∪ patternWhiteSpace)

/-- Letters that come apart into something else than an identifier. -/
def unstable : CodeSet := .ofTable
  "37A 309B-309C FC5E-FC63 FDFA-FDFB FE70 FE72 FE74 FE76 FE78 FE7A FE7C FE7E"

/-- What identifiers go on with, if they are to stay identifiers when taken apart. -/
def xidContinue : CodeSet :=
  idContinue \ unstable

/-- What identifiers start with, if they are to stay identifiers when taken apart. -/
def xidStart : CodeSet :=
  idStart \ (unstable ∪ .ofTable "E33 EB3 FF9E-FF9F")

/-- Symbols of mathematics that some identifiers go on with. -/
def idCompatMathContinue : CodeSet :=
  idCompatMathStart ∪ .ofTable "B2-B3 B9 2070 2074-207E 2080-208E"

/-- What words are made of: letters, marks, digits and marks that join. -/
def word : CodeSet :=
  unions [alphabetic, mark, decimalNumber, connectorPunctuation, joinControl]

/-! ## Graphemes -/

/-- Marks that extend the character before them. -/
def graphemeExtend : CodeSet :=
  unions [nonspacingMark, enclosingMark, otherGraphemeExtend]

/-- Characters that can stand alone. -/
def graphemeBase : CodeSet :=
  assigned \ unions
    [control, format, privateUse, lineSeparator, paragraphSeparator, graphemeExtend]

/-- What is ignored where it cannot be shown. -/
def defaultIgnorable : CodeSet :=
  unions [otherDefaultIgnorable, format, variationSelector] \
    unions [whiteSpace, prependedConcatenationMark, .ofTable "FFF9-FFFB 13430-13440"]

/-! ## Names -/

/-- The properties under all of their names. -/
def named : List (List String × CodeSet) := [
  (["ahex", "asciihexdigit"], asciiHexDigit),
  (["alpha", "alphabetic"], alphabetic),
  (["bidic", "bidicontrol"], bidiControl),
  (["bidim", "bidimirrored"], bidiMirrored),
  (["cased"], cased),
  (["ci", "caseignorable"], caseIgnorable),
  (["cwcf", "changeswhencasefolded"], changesWhenCasefolded),
  (["cwcm", "changeswhencasemapped"], changesWhenCasemapped),
  (["cwl", "changeswhenlowercased"], changesWhenLowercased),
  (["cwt", "changeswhentitlecased"], changesWhenTitlecased),
  (["cwu", "changeswhenuppercased"], changesWhenUppercased),
  (["dash"], dash),
  (["dep", "deprecated"], deprecated),
  (["di", "defaultignorablecodepoint"], defaultIgnorable),
  (["dia", "diacritic"], diacritic),
  (["ebase", "emojimodifierbase"], emojiModifierBase),
  (["ecomp", "emojicomponent"], emojiComponent),
  (["emod", "emojimodifier"], emojiModifier),
  (["emoji"], emoji),
  (["epres", "emojipresentation"], emojiPresentation),
  (["ext", "extender"], extender),
  (["extpict", "extendedpictographic"], extendedPictographic),
  (["grbase", "graphemebase"], graphemeBase),
  (["grext", "graphemeextend"], graphemeExtend),
  (["grlink", "graphemelink"], graphemeLink),
  (["hex", "hexdigit"], hexDigit),
  (["hyphen"], hyphen),
  (["idc", "idcontinue"], idContinue),
  (["idcompatmathcontinue"], idCompatMathContinue),
  (["idcompatmathstart"], idCompatMathStart),
  (["ideo", "ideographic"], ideographic),
  (["ids", "idstart"], idStart),
  (["idsb", "idsbinaryoperator"], idsBinaryOperator),
  (["idst", "idstrinaryoperator"], idsTrinaryOperator),
  (["idsu", "idsunaryoperator"], idsUnaryOperator),
  (["joinc", "joincontrol"], joinControl),
  (["loe", "logicalorderexception"], logicalOrderException),
  (["lower", "lowercase"], lowercase),
  (["math"], math),
  (["mcm", "modifiercombiningmark"], modifierCombiningMark),
  (["nchar", "noncharactercodepoint"], noncharacter),
  (["oalpha", "otheralphabetic"], otherAlphabetic),
  (["odi", "otherdefaultignorablecodepoint"], otherDefaultIgnorable),
  (["ogrext", "othergraphemeextend"], otherGraphemeExtend),
  (["oidc", "otheridcontinue"], otherIdContinue),
  (["oids", "otheridstart"], otherIdStart),
  (["olower", "otherlowercase"], otherLowercase),
  (["omath", "othermath"], otherMath),
  (["oupper", "otheruppercase"], otherUppercase),
  (["patsyn", "patternsyntax"], patternSyntax),
  (["patws", "patternwhitespace"], patternWhiteSpace),
  (["pcm", "prependedconcatenationmark"], prependedConcatenationMark),
  (["qmark", "quotationmark"], quotationMark),
  (["radical"], radical),
  (["ri", "regionalindicator"], regionalIndicator),
  (["sd", "softdotted"], softDotted),
  (["sterm", "sentenceterminal"], sentenceTerminal),
  (["term", "terminalpunctuation"], terminalPunctuation),
  (["uideo", "unifiedideograph"], unifiedIdeograph),
  (["upper", "uppercase"], uppercase),
  (["vs", "variationselector"], variationSelector),
  (["wspace", "whitespace", "space"], whiteSpace),
  (["xidc", "xidcontinue"], xidContinue),
  (["xids", "xidstart"], xidStart)]

end Rulebook.Unicode.Derived
