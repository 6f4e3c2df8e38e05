import PolicyEditor.Pattern.Property.Case
import PolicyEditor.Text.PropertyTable

/-!
# Character classes by binary properties

A binary property is one that a character has or does not have.  Many of them follow from general
categories and a few further characters.

## Main definitions

* `CharClass.idStart`, `CharClass.idContinue` : the characters of identifiers.
* `CharClass.graphemeExtend`, `CharClass.graphemeBase` : the parts of what is seen as one character.
* `CharClass.ofPropertyName?` : the class of a binary property.
-/

namespace PolicyEditor.CharClass

/-! ### Numbers and mathematics -/

/-- Digits of hexadecimal numbers in ASCII. -/
def asciiHexDigit : CharClass :=
  ⟨[(0x30, 0x39), (0x41, 0x46), (0x61, 0x66)]⟩

/-- Digits of hexadecimal numbers, also in their wide forms. -/
def hexDigit : CharClass :=
  asciiHexDigit.union ⟨[(0xFF10, 0xFF19), (0xFF21, 0xFF26), (0xFF41, 0xFF46)]⟩

/-- Characters of mathematics. -/
def math : CharClass :=
  (ofCategories [.sm]).union (ofRanges Text.otherMathRanges)

/-! ### Identifiers -/

/-- The white space of formal languages. -/
def patternWhite : CharClass :=
  ⟨[(0x9, 0xD), (0x20, 0x20), (0x85, 0x85), (0x200E, 0x200F), (0x2028, 0x2029)]⟩

/-- What formal languages use between identifiers. -/
def betweenIds : CharClass :=
  (ofRanges Text.patternSignRanges).union patternWhite

/-- Characters that start identifiers although they are no letters. -/
def otherIdStart : CharClass :=
  ⟨[(0x1885, 0x1886), (0x2118, 0x2118), (0x212E, 0x212E), (0x309B, 0x309C)]⟩

/-- Characters that continue identifiers although their category does not say so. -/
def otherIdContinue : CharClass :=
  ⟨[(0xB7, 0xB7), (0x387, 0x387), (0x1369, 0x1371), (0x19DA, 0x19DA), (0x200C, 0x200D),
    (0x30FB, 0x30FB), (0xFF65, 0xFF65)]⟩

/-- Characters that start identifiers. -/
def idStart : CharClass :=
  (unions [letter, ofCategories [.nl], otherIdStart]).difference betweenIds

/-- Characters of identifiers. -/
def idContinue : CharClass :=
  (unions [idStart, ofCategories [.mn, .mc, .nd, .pc], otherIdContinue]).difference betweenIds

/-- Characters of identifiers that normal forms change into something else. -/
def unstableInIds : CharClass :=
  ⟨[(0x37A, 0x37A), (0x309B, 0x309C), (0xFC5E, 0xFC63), (0xFDFA, 0xFDFB), (0xFE70, 0xFE70),
    (0xFE72, 0xFE72), (0xFE74, 0xFE74), (0xFE76, 0xFE76), (0xFE78, 0xFE78), (0xFE7A, 0xFE7A),
    (0xFE7C, 0xFE7C), (0xFE7E, 0xFE7E)]⟩

/-- Letters that normal forms change into what does not start identifiers. -/
def unstableAtStart : CharClass :=
  unstableInIds.union ⟨[(0xE33, 0xE33), (0xEB3, 0xEB3), (0xFF9E, 0xFF9F)]⟩

/-- Mathematical symbols that may start identifiers. -/
def idMathStart : CharClass :=
  ⟨[(0x2202, 0x2202), (0x2207, 0x2207), (0x221E, 0x221E), (0x1D6C1, 0x1D6C1), (0x1D6DB, 0x1D6DB),
    (0x1D6FB, 0x1D6FB), (0x1D715, 0x1D715), (0x1D735, 0x1D735), (0x1D74F, 0x1D74F),
    (0x1D76F, 0x1D76F), (0x1D789, 0x1D789), (0x1D7A9, 0x1D7A9), (0x1D7C3, 0x1D7C3)]⟩

/-- Mathematical symbols that may stand in identifiers. -/
def idMathContinue : CharClass :=
  idMathStart.union ⟨[(0xB2, 0xB3), (0xB9, 0xB9), (0x2070, 0x2070), (0x2074, 0x207E),
    (0x2080, 0x208E)]⟩

/-! ### Marks and characters that are not seen -/

/-- Nonspacing and enclosing marks, and what extends other characters like them. -/
def graphemeExtend : CharClass :=
  (ofCategories [.mn, .me]).union (ofRanges Text.otherExtendRanges)

/-- Characters that are seen and do not extend other ones. -/
def graphemeBase : CharClass :=
  assigned.difference ((ofCategories [.cc, .cf, .co, .zl, .zp]).union graphemeExtend)

/-- Characters to which case does not apply in the middle of a word. -/
def caseIgnorable : CharClass :=
  (ofCategories [.mn, .me, .cf, .lm, .sk]).union
    ⟨[(0x27, 0x27), (0x2E, 0x2E), (0x3A, 0x3A), (0xB7, 0xB7), (0x387, 0x387), (0x55F, 0x55F),
      (0x5F4, 0x5F4), (0x2018, 0x2019), (0x2024, 0x2024), (0x2027, 0x2027), (0xFE13, 0xFE13),
      (0xFE52, 0xFE52), (0xFE55, 0xFE55), (0xFF07, 0xFF07), (0xFF0E, 0xFF0E), (0xFF1A, 0xFF1A)]⟩

/-- Marks that choose the form of the character before them. -/
def variationSelector : CharClass :=
  ⟨[(0x180B, 0x180D), (0x180F, 0x180F), (0xFE00, 0xFE0F), (0xE0100, 0xE01EF)]⟩

/-- Marks around the numbers behind them. -/
def prependedMark : CharClass :=
  ⟨[(0x600, 0x605), (0x6DD, 0x6DD), (0x70F, 0x70F), (0x890, 0x891), (0x8E2, 0x8E2),
    (0x110BD, 0x110BD), (0x110CD, 0x110CD)]⟩

/-- Code points that are not shown although their category does not say so. -/
def otherIgnorable : CharClass :=
  ⟨[(0x34F, 0x34F), (0x115F, 0x1160), (0x17B4, 0x17B5), (0x2065, 0x2065), (0x3164, 0x3164),
    (0xFFA0, 0xFFA0), (0xFFF0, 0xFFF8), (0xE0000, 0xE0000), (0xE0002, 0xE001F), (0xE0080, 0xE00FF),
    (0xE01F0, 0xE0FFF)]⟩

/-- Format characters that are shown. -/
def shownFormat : CharClass :=
  prependedMark.union ⟨[(0xFFF9, 0xFFFB), (0x13430, 0x13440)]⟩

/-- Code points that are not shown where they are not known. -/
def defaultIgnorable : CharClass :=
  (unions [otherIgnorable, ofCategories [.cf], variationSelector]).difference shownFormat

/-- Code points that are no characters, two of them at the end of every plane. -/
def noncharacter : CharClass :=
  ofRanges ((0xFDD0, 0xFDEF) ::
    (List.range 17).map fun plane => (0x10000 * plane + 0xFFFE, 0x10000 * plane + 0xFFFF))

/-- Letters that stand for regions in pairs. -/
def regionalIndicator : CharClass :=
  ⟨[(0x1F1E6, 0x1F1FF)]⟩

/-- Marks that change the tone of a small picture. -/
def emojiModifier : CharClass :=
  ⟨[(0x1F3FB, 0x1F3FF)]⟩

/-- Ideographs. -/
def ideographic : CharClass :=
  ofRanges Text.ideographicRanges

/-- Quotation marks. -/
def quotationMark : CharClass :=
  ofRanges Text.quotationRanges

/-! ### Names -/

/-- The class of a binary property. -/
def ofPropertyName? : (name : String) → Option CharClass
  | "ahex" | "asciihexdigit" => some asciiHexDigit
  | "alpha" | "alphabetic" => some alphabetic
  | "bidic" | "bidicontrol" =>
    some ⟨[(0x61C, 0x61C), (0x200E, 0x200F), (0x202A, 0x202E), (0x2066, 0x2069)]⟩
  | "bidim" | "bidimirrored" => some (ofRanges Text.mirroredRanges)
  | "cased" => some cased
  | "ci" | "caseignorable" => some caseIgnorable
  | "cwcf" | "changeswhencasefolded" => some changesWhenCasefolded
  | "cwcm" | "changeswhencasemapped" => some changesWhenCasemapped
  | "cwl" | "changeswhenlowercased" => some changesWhenLowercased
  | "cwt" | "changeswhentitlecased" => some changesWhenTitlecased
  | "cwu" | "changeswhenuppercased" => some changesWhenUppercased
  | "dash" => some (ofRanges Text.dashRanges)
  | "dep" | "deprecated" => some (ofRanges Text.deprecatedRanges)
  | "di" | "defaultignorablecodepoint" => some defaultIgnorable
  | "dia" | "diacritic" => some (ofRanges Text.diacriticRanges)
  | "ebase" | "emojimodifierbase" => some (ofRanges Text.emojiBaseRanges)
  | "ecomp" | "emojicomponent" => some (ofRanges Text.emojiComponentRanges)
  | "emod" | "emojimodifier" => some emojiModifier
  | "emoji" => some (ofRanges Text.emojiRanges)
  | "epres" | "emojipresentation" => some (ofRanges Text.emojiPresentationRanges)
  | "ext" | "extender" => some (ofRanges Text.extenderRanges)
  | "extpict" | "extendedpictographic" => some (ofRanges Text.pictographicRanges)
  | "grbase" | "graphemebase" => some graphemeBase
  | "grext" | "graphemeextend" => some graphemeExtend
  | "grlink" | "graphemelink" => some (ofRanges Text.graphemeLinkRanges)
  | "hex" | "hexdigit" => some hexDigit
  | "hyphen" =>
    some ⟨[(0x2D, 0x2D), (0xAD, 0xAD), (0x58A, 0x58A), (0x1806, 0x1806), (0x2010, 0x2011),
      (0x2E17, 0x2E17), (0x30FB, 0x30FB), (0xFE63, 0xFE63), (0xFF0D, 0xFF0D), (0xFF65, 0xFF65)]⟩
  | "idc" | "idcontinue" => some idContinue
  | "idcompatmathcontinue" => some idMathContinue
  | "idcompatmathstart" => some idMathStart
  | "ideo" | "ideographic" => some ideographic
  | "ids" | "idstart" => some idStart
  | "idsb" | "idsbinaryoperator" => some ⟨[(0x2FF0, 0x2FF1), (0x2FF4, 0x2FFD), (0x31EF, 0x31EF)]⟩
  | "idst" | "idstrinaryoperator" => some ⟨[(0x2FF2, 0x2FF3)]⟩
  | "idsu" | "idsunaryoperator" => some ⟨[(0x2FFE, 0x2FFF)]⟩
  | "joinc" | "joincontrol" => some joinControl
  | "loe" | "logicalorderexception" =>
    some ⟨[(0xE40, 0xE44), (0xEC0, 0xEC4), (0x19B5, 0x19B7), (0x19BA, 0x19BA), (0xAAB5, 0xAAB6),
      (0xAAB9, 0xAAB9), (0xAABB, 0xAABC)]⟩
  | "lower" | "lowercase" => some lowercase
  | "math" => some math
  | "mcm" | "modifiercombiningmark" =>
    some ⟨[(0x654, 0x655), (0x658, 0x658), (0x6DC, 0x6DC), (0x6E3, 0x6E3), (0x6E7, 0x6E8),
      (0x8CA, 0x8CB), (0x8CD, 0x8CF), (0x8D3, 0x8D3), (0x8F3, 0x8F3)]⟩
  | "nchar" | "noncharactercodepoint" => some noncharacter
  | "oalpha" | "otheralphabetic" => some (ofRanges Text.otherAlphabeticRanges)
  | "odi" | "otherdefaultignorablecodepoint" => some otherIgnorable
  | "ogrext" | "othergraphemeextend" => some (ofRanges Text.otherExtendRanges)
  | "oidc" | "otheridcontinue" => some otherIdContinue
  | "oids" | "otheridstart" => some otherIdStart
  | "olower" | "otherlowercase" => some (ofRanges Text.otherLowercaseRanges)
  | "omath" | "othermath" => some (ofRanges Text.otherMathRanges)
  | "oupper" | "otheruppercase" => some (ofRanges Text.otherUppercaseRanges)
  | "patsyn" | "patternsyntax" => some (ofRanges Text.patternSignRanges)
  | "patws" | "patternwhitespace" => some patternWhite
  | "pcm" | "prependedconcatenationmark" => some prependedMark
  | "qmark" | "quotationmark" => some quotationMark
  | "radical" => some ⟨[(0x2E80, 0x2E99), (0x2E9B, 0x2EF3), (0x2F00, 0x2FD5)]⟩
  | "ri" | "regionalindicator" => some regionalIndicator
  | "sd" | "softdotted" => some (ofRanges Text.softDottedRanges)
  | "space" | "wspace" | "whitespace" => some white
  | "sterm" | "sentenceterminal" => some (ofRanges Text.sentenceEndRanges)
  | "term" | "terminalpunctuation" => some (ofRanges Text.textEndRanges)
  | "uideo" | "unifiedideograph" => some (ofRanges Text.unifiedRanges)
  | "upper" | "uppercase" => some uppercase
  | "vs" | "variationselector" => some variationSelector
  | "xidc" | "xidcontinue" => some (idContinue.difference unstableInIds)
  | "xids" | "xidstart" => some (idStart.difference unstableAtStart)
  | _ => none

end PolicyEditor.CharClass
