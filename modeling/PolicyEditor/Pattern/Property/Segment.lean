import PolicyEditor.Pattern.Property.Binary
import PolicyEditor.Pattern.Property.Script

/-!
# Character classes by segmentation

Texts are cut into what is seen as one character, into words and into sentences by rules on kinds of
characters.  Characters without a kind of their own have no name here.

## Main definitions

* `CharClass.ofClusterBreakName?` : the class of a kind for what is seen as one character.
* `CharClass.ofWordBreakName?` : the class of a kind for words.
* `CharClass.ofSentenceBreakName?` : the class of a kind for sentences.
-/

namespace PolicyEditor.CharClass

/-! ### Common parts -/

/-- A carriage return. -/
def carriageReturn : CharClass :=
  single '\r'

/-- A line feed. -/
def lineFeed : CharClass :=
  single '\n'

/-- The mark that asks for joined characters. -/
def joiner : CharClass :=
  single '\u200d'

/-- Marks around numbers that belong to the numbers. -/
def numberMark : CharClass :=
  prependedMark.difference (single '\u070f')

/-- Decimal digits and what belongs to numbers. -/
def numeric : CharClass :=
  unions [digit, numberMark, single '\u066b', single '\u19da']

/-! ### Clusters -/

/-- Syllables without a final consonant.  They stand at every 28th code point. -/
def openSyllable : CharClass :=
  ofRanges ((List.range 399).map fun n => (0xAC00 + 28 * n, 0xAC00 + 28 * n))

/-- Characters that stand for themselves and are not seen. -/
def control : CharClass :=
  ((ofCategories [.zl, .zp, .cc, .cf]).union
    (defaultIgnorable.difference assigned)).difference
    (unions [graphemeExtend, joiner, prependedMark, carriageReturn, lineFeed])

/-- Spacing marks that do not belong to the character before them. -/
def separateMark : CharClass :=
  ⟨[(0x102B, 0x102C), (0x1038, 0x1038), (0x1062, 0x1064), (0x1067, 0x106D), (0x1083, 0x1083),
    (0x1087, 0x108C), (0x108F, 0x108F), (0x109A, 0x109C), (0x1A61, 0x1A61), (0x1A63, 0x1A64),
    (0xAA7B, 0xAA7B), (0xAA7D, 0xAA7D), (0x11720, 0x11721)]⟩

/-- Spacing marks that belong to the character before them. -/
def spacingMark : CharClass :=
  ((ofCategories [.mc]).union ⟨[(0xE33, 0xE33), (0xEB3, 0xEB3)]⟩).difference
    (graphemeExtend.union separateMark)

/-- Characters that belong to the character behind them. -/
def prepended : CharClass :=
  prependedMark.union
    ⟨[(0xD4E, 0xD4E), (0x111C2, 0x111C3), (0x113D1, 0x113D1), (0x1193F, 0x1193F),
      (0x11941, 0x11941), (0x11A3A, 0x11A3A), (0x11A84, 0x11A89), (0x11D46, 0x11D46),
      (0x11F02, 0x11F02)]⟩

/-- The class of a kind for what is seen as one character. -/
def ofClusterBreakName? : (name : String) → Option CharClass
  | "cn" | "control" => some control
  | "cr" => some carriageReturn
  | "ex" | "extend" => some (graphemeExtend.union emojiModifier)
  | "l" => some ⟨[(0x1100, 0x115F), (0xA960, 0xA97C)]⟩
  | "lf" => some lineFeed
  | "lv" => some openSyllable
  | "lvt" => some (difference ⟨[(0xAC00, 0xD7A3)]⟩ openSyllable)
  | "pp" | "prepend" => some prepended
  | "ri" | "regionalindicator" => some regionalIndicator
  | "sm" | "spacingmark" => some spacingMark
  | "t" => some ⟨[(0x11A8, 0x11FF), (0xD7CB, 0xD7FB)]⟩
  | "v" => some ⟨[(0x1160, 0x11A7), (0xD7B0, 0xD7C6), (0x16D63, 0x16D63), (0x16D67, 0x16D6A)]⟩
  | "zwj" => some joiner
  | _ => none

/-! ### Words -/

/-- Characters of Katakana, and marks that are used with them. -/
def katakana : CharClass :=
  (ofScripts ["kana"]).union
    ⟨[(0x3031, 0x3035), (0x309B, 0x309C), (0x30A0, 0x30A0), (0x30FC, 0x30FC), (0xFF70, 0xFF70)]⟩

/-- Hebrew letters. -/
def hebrewLetter : CharClass :=
  (ofScripts ["hebr"]).intersection (ofCategories [.lo])

/-- Scripts that do not part words by spaces, except for ideographs and Katakana. -/
def unspaced : CharClass :=
  ofScripts ["ahom", "hira", "khmr", "lana", "laoo", "mymr", "tale", "talu", "tavt", "thai"]

/-- Marks that extend the character before them. -/
def extending : CharClass :=
  graphemeExtend.union (ofCategories [.mc])

/-- Marks that are used like letters. -/
def letterMark : CharClass :=
  ⟨[(0x2C2, 0x2C5), (0x2D2, 0x2D7), (0x2DE, 0x2DF), (0x2E5, 0x2EB), (0x2ED, 0x2ED), (0x2EF, 0x2FF),
    (0x55A, 0x55C), (0x55E, 0x55E), (0x58A, 0x58A), (0x5F3, 0x5F3), (0x70F, 0x70F),
    (0xA708, 0xA716), (0xA720, 0xA721), (0xA789, 0xA78A), (0xAB5B, 0xAB5B)]⟩

/-- Letters of scripts that part words by spaces. -/
def wordLetter : CharClass :=
  (alphabetic.difference
    (unions [ideographic, katakana, hebrewLetter, unspaced, extending])).union letterMark

/-- The class of a kind for words. -/
def ofWordBreakName? : (name : String) → Option CharClass
  | "le" | "aletter" => some wordLetter
  | "cr" => some carriageReturn
  | "dq" | "doublequote" => some (single '"')
  | "extend" => some (extending.union emojiModifier)
  | "ex" | "extendnumlet" => some ((ofCategories [.pc]).union (single '\u202f'))
  | "fo" | "format" =>
    some ((ofCategories [.cf]).difference
      (unions [graphemeExtend, prependedMark, ofChars ['\u200b', '\u200d']]))
  | "hl" | "hebrewletter" => some hebrewLetter
  | "ka" | "katakana" => some katakana
  | "lf" => some lineFeed
  | "mb" | "midnumlet" =>
    some (ofChars ['.', '\u2018', '\u2019', '\u2024', '\ufe52', '\uff07', '\uff0e'])
  | "ml" | "midletter" =>
    some (ofChars [':', '\u00b7', '\u0387', '\u055f', '\u05f4', '\u2027', '\ufe13', '\ufe55',
      '\uff1a'])
  | "mn" | "midnum" =>
    some (ofChars [',', ';', '\u037e', '\u0589', '\u060c', '\u060d', '\u066c', '\u07f8', '\u2044',
      '\ufe50', '\ufe54', '\uff0c', '\uff1b'])
  | "nl" | "newline" => some ⟨[(0xB, 0xC), (0x85, 0x85), (0x2028, 0x2029)]⟩
  | "nu" | "numeric" => some numeric
  | "ri" | "regionalindicator" => some regionalIndicator
  | "sq" | "singlequote" => some (single '\'')
  | "wsegspace" =>
    some ((ofCategories [.zs]).difference (ofChars ['\u00a0', '\u2007', '\u202f']))
  | "zwj" => some joiner
  | _ => none

/-! ### Sentences -/

/-- Georgian letters that are written in lower case only. -/
def georgianSmall : CharClass :=
  ⟨[(0x10D0, 0x10FA), (0x10FD, 0x10FF)]⟩

/-- Georgian letters for titles. -/
def georgianCapital : CharClass :=
  ⟨[(0x1C90, 0x1CBA), (0x1CBD, 0x1CBF)]⟩

/-- Lowercase characters, of which a sentence does not start with one. -/
def sentenceLower : CharClass :=
  lowercase.difference (graphemeExtend.union georgianSmall)

/-- Uppercase characters. -/
def sentenceUpper : CharClass :=
  (uppercase.union (ofCategories [.lt])).difference georgianCapital

/-- Full stops, which do not always end a sentence. -/
def fullStop : CharClass :=
  ofChars ['.', '\u2024', '\ufe52', '\uff0e']

/-- The ends of paragraphs. -/
def paragraphEnd : CharClass :=
  ⟨[(0x85, 0x85), (0x2028, 0x2029)]⟩

/-- The class of a kind for sentences. -/
def ofSentenceBreakName? : (name : String) → Option CharClass
  | "at" | "aterm" => some fullStop
  | "cl" | "close" =>
    some (((unions [ofCategories [.ps, .pe, .pi, .pf], quotationMark,
      ⟨[(0x275B, 0x2760), (0x2E00, 0x2E01), (0x2E06, 0x2E08), (0x2E0B, 0x2E0B),
        (0x1F676, 0x1F678)]⟩]).difference (ofChars ['\uff02', '\uff07'])))
  | "cr" => some carriageReturn
  | "ex" | "extend" => some (extending.union joiner)
  | "fo" | "format" =>
    some ((ofCategories [.cf]).difference (unions [graphemeExtend, joiner, numberMark]))
  | "le" | "oletter" =>
    some ((alphabetic.difference (unions [sentenceLower, sentenceUpper, extending])).union
      (single '\u05f3'))
  | "lf" => some lineFeed
  | "lo" | "lower" => some sentenceLower
  | "nu" | "numeric" => some (numeric.union (single '\u066c'))
  | "sc" | "scontinue" =>
    some ⟨[(0x2C, 0x2D), (0x3A, 0x3B), (0x37E, 0x37E), (0x55D, 0x55D), (0x60C, 0x60D),
      (0x7F8, 0x7F8), (0x1802, 0x1802), (0x1808, 0x1808), (0x2013, 0x2014), (0x3001, 0x3001),
      (0xFE10, 0xFE11), (0xFE13, 0xFE14), (0xFE31, 0xFE32), (0xFE50, 0xFE51), (0xFE54, 0xFE55),
      (0xFE58, 0xFE58), (0xFE63, 0xFE63), (0xFF0C, 0xFF0D), (0xFF1A, 0xFF1B), (0xFF64, 0xFF64)]⟩
  | "se" | "sep" => some paragraphEnd
  | "sp" => some (white.difference (unions [carriageReturn, lineFeed, paragraphEnd]))
  | "st" | "sterm" => some ((ofRanges Text.sentenceEndRanges).difference fullStop)
  | "up" | "upper" => some sentenceUpper
  | _ => none

end PolicyEditor.CharClass
